import PromptChain.Yaml.Cursor

/-!
# Gaps between words

In a text that goes over several lines, white space around line breaks does not
count. One line break counts as a space, and of more the first one does not count.
-/

namespace PromptChain.Yaml

/-- The white space and the line breaks between two words. -/
structure Gap where
  /-- The white space before the first break. -/
  white : List Char
  /-- The breaks, each as it counts in a text. -/
  breaks : List (List Char)

namespace Gap

/-- No gap. -/
def none : Gap := ⟨[], []⟩

/-- A gap that starts with a line break that does not count. -/
def escapedBreak : Gap := ⟨[], [[]]⟩

/-- Whether the gap goes over the end of a line. -/
def endsLine (gap : Gap) : Bool := !gap.breaks.isEmpty

/-- What the gap counts as in the text. -/
def text (gap : Gap) : List Char :=
  match gap.breaks with
  | [] => gap.white
  | [['\n']] => [' ']
  | ['\n'] :: more => more.flatten
  | breaks => breaks.flatten

/-- Read on in a gap. White space for which `refused` holds may not stand after a
    break. -/
def read? (refused : Cursor → Bool) : Nat → Gap → Cursor → Option (Gap × Cursor)
  | 0, gap, c => some (gap, c)
  | fuel + 1, gap, c =>
    match c.head? with
    | .none => some (gap, c)
    | some x =>
      if isWhite x then
        if gap.endsLine then
          if refused c then .none else read? refused fuel gap (c.skip 1)
        else read? refused fuel { gap with white := gap.white ++ [x] } (c.skip 1)
      else if isBreak x then
        let (text, c) := c.takeBreak
        read? refused fuel { gap with breaks := gap.breaks ++ [text] } c
      else some (gap, c)

end Gap

end PromptChain.Yaml

import PromptChain.Text.Basic

/-!
# Mentions

A template is a text with mentions in it: `@[display](identifier)`, where the display
is a non-empty text without `]` and the identifier a non-empty text without `)`.

`Template.pieces` takes a template apart, from left to right, into its mentions and
the characters between them; a mention is taken as early as one starts.
-/

namespace PromptChain.Template

/-- A mention, and the bytes from `start` to before `stop` that it takes up in UTF-8. -/
structure Mention where
  display : String
  identifier : String
  start : Nat
  stop : Nat
deriving DecidableEq, Repr

/-- A piece of a template. -/
inductive Piece where
  | char (c : Char)
  | mention (display identifier : List Char)
deriving DecidableEq, Repr

/-- The text of a piece in the template. -/
def Piece.source : Piece → List Char
  | char c => [c]
  | mention display identifier =>
    '@' :: '[' :: display ++ (']' :: '(' :: identifier ++ [')'])

/-- A non-empty text up to a mark, and what follows the mark. -/
def upTo? (last : Char) (mark : List Char) (cs : List Char) : Option (List Char × List Char) :=
  let text := cs.takeWhile (· ≠ last)
  if text.isEmpty then none
  else (Text.after? mark (cs.dropWhile (· ≠ last))).map fun rest => (text, rest)

/-- The mention at the start of a text, as display and identifier, and what follows
    it. -/
def mentionAt? (cs : List Char) : Option (List Char × List Char × List Char) := do
  let cs ← Text.after? ['@', '['] cs
  let (display, cs) ← upTo? ']' [']', '('] cs
  let (identifier, cs) ← upTo? ')' [')'] cs
  return (display, identifier, cs)

theorem length_of_after? {mark cs rest : List Char} (h : Text.after? mark cs = some rest) :
    rest.length + mark.length = cs.length := by
  induction mark generalizing cs with
  | nil => simp [Text.after?] at h; simp [h]
  | cons m ms ih =>
    cases cs with
    | nil => simp [Text.after?] at h
    | cons c cs =>
      simp only [Text.after?] at h
      split at h
      · have := ih h
        simp only [List.length_cons]
        omega
      · simp at h

theorem length_dropWhile_le {α : Type} (p : α → Bool) (cs : List α) :
    (cs.dropWhile p).length ≤ cs.length := by
  induction cs with
  | nil => simp
  | cons c cs ih =>
    rw [List.dropWhile_cons]
    split
    · simp only [List.length_cons]; omega
    · simp

theorem length_of_upTo? {last : Char} {mark cs text rest : List Char}
    (h : upTo? last mark cs = some (text, rest)) : rest.length ≤ cs.length := by
  simp only [upTo?] at h
  split at h
  · simp at h
  · obtain ⟨r, hr, he⟩ := Option.map_eq_some_iff.1 h
    have h1 := length_of_after? hr
    have h2 := length_dropWhile_le (· ≠ last) cs
    simp only [Prod.mk.injEq] at he
    obtain ⟨-, rfl⟩ := he
    omega

theorem length_of_mentionAt? {cs display identifier rest : List Char}
    (h : mentionAt? cs = some (display, identifier, rest)) : rest.length < cs.length := by
  simp only [mentionAt?, Option.bind_eq_bind, Option.bind_eq_some_iff, Prod.exists] at h
  obtain ⟨a, ha, d, b, hb, i, c, hc, he⟩ := h
  simp only [Option.pure_def, Option.some.injEq, Prod.mk.injEq] at he
  obtain ⟨-, -, rfl⟩ := he
  have h1 := length_of_after? ha
  have h2 := length_of_upTo? hb
  have h3 := length_of_upTo? hc
  simp only [List.length_cons, List.length_nil] at h1
  omega

/-- The pieces of a template in order. -/
def pieces (cs : List Char) : List Piece :=
  match h : mentionAt? cs with
  | some (display, identifier, rest) =>
    have := length_of_mentionAt? h
    .mention display identifier :: pieces rest
  | none =>
    match cs with
    | [] => []
    | c :: rest => .char c :: pieces rest
termination_by cs.length

/-- The number of bytes of a text in UTF-8. -/
def byteLength : List Char → Nat
  | [] => 0
  | c :: cs => c.utf8Size + byteLength cs

/-- The mentions among pieces, the first piece starting at the given byte. -/
def mentionsFrom : Nat → List Piece → List Mention
  | _, [] => []
  | start, piece :: rest =>
    let stop := start + byteLength piece.source
    match piece with
    | .char _ => mentionsFrom stop rest
    | .mention display identifier =>
      ⟨String.ofList display, String.ofList identifier, start, stop⟩ :: mentionsFrom stop rest

/-- The mentions in a template, in order. -/
def mentions (template : String) : List Mention := mentionsFrom 0 (pieces template.toList)

end PromptChain.Template

import PromptChain.Block.Wire

/-!
# Fresh blocks

A block is fresh if no run of it has ever begun. So is every new block, and so is every
block read from a document, which says nothing about runs. The latter is an instance of
what holds of every record read field by field (`Source.recordOf_preserves`): what each
field leaves alone stays as it was to begin with.
-/

namespace PromptChain

theorem exists_of_bind_ok {ε α β : Type} {x : Except ε α} {f : α → Except ε β} {b : β}
    (h : (x >>= f) = .ok b) : ∃ a, x = .ok a ∧ f a = .ok b := by
  cases x with
  | error e => cases h
  | ok a => exact ⟨a, rfl, h⟩

theorem exists_of_map_ok {ε α β : Type} {x : Except ε α} {f : α → β} {b : β}
    (h : f <$> x = .ok b) : ∃ a, x = .ok a ∧ f a = b := by
  cases x with
  | error e => cases h
  | ok a => exact ⟨a, rfl, Except.ok.inj h⟩

namespace Source

variable {δ σ : Type} [Source δ] {Q : σ → Prop} {slots : List (Slot δ σ)}

theorem fillNamed_preserves
    (hs : ∀ slot ∈ slots, ∀ part change, slot.read part = .ok change →
      ∀ record, Q record → Q (change record))
    {members : List (Except DecodeError String × δ)} {given given' : List String}
    {record record' : σ} (h : fillNamed slots members given record = .ok (given', record'))
    (hQ : Q record) : Q record' := by
  induction members generalizing given record with
  | nil =>
    obtain ⟨-, rfl⟩ := h
    exact hQ
  | cons member rest ih =>
    obtain ⟨key, part⟩ := member
    obtain ⟨name, -, h⟩ := exists_of_bind_ok h
    split at h
    · obtain ⟨-, -, h⟩ := exists_of_bind_ok h
      exact ih h hQ
    next slot hfind =>
      split at h
      · cases h
      · obtain ⟨change, hread, h⟩ := exists_of_bind_ok h
        exact ih h (hs slot (List.mem_of_find?_eq_some hfind) part change hread record hQ)

omit [Source δ] in
theorem fillPositional_preserves
    (hs : ∀ slot ∈ slots, ∀ part change, slot.read part = .ok change →
      ∀ record, Q record → Q (change record))
    {expected : String} {next? : Option DecodeError} {items left : List δ} {position : Nat}
    {record record' : σ}
    (h : fillPositional expected next? slots items position record = .ok (left, record'))
    (hQ : Q record) : Q record' := by
  induction slots generalizing items position record with
  | nil =>
    obtain ⟨-, rfl⟩ := h
    exact hQ
  | cons slot slots ih =>
    have hrest := fun other ho => hs other (List.mem_cons_of_mem _ ho)
    cases items with
    | nil =>
      obtain ⟨-, -, h⟩ := exists_of_bind_ok h
      split at h
      · cases h
      · exact ih hrest h hQ
    | cons item items =>
      obtain ⟨change, hread, h⟩ := exists_of_bind_ok h
      exact ih hrest h (hs slot List.mem_cons_self item change hread record hQ)

/-- What no field of a record touches is as it was to begin with. -/
theorem recordOf_preserves
    (hs : ∀ slot ∈ slots, ∀ part change, slot.read part = .ok change →
      ∀ record, Q record → Q (change record))
    {name : String} {initial value : σ} {part : δ}
    (h : recordOf name slots initial part = .ok value) (hQ : Q initial) : Q value := by
  obtain ⟨fields, -, h⟩ := exists_of_bind_ok h
  cases fields with
  | named members end? =>
    obtain ⟨⟨given, record⟩, hfill, h⟩ := exists_of_bind_ok h
    obtain ⟨-, -, h⟩ := exists_of_bind_ok h
    obtain ⟨-, -, h⟩ := exists_of_bind_ok h
    rw [← show record = value from Except.ok.inj h]
    exact fillNamed_preserves hs hfill hQ
  | positional items =>
    obtain ⟨⟨left, record⟩, hfill, h⟩ := exists_of_bind_ok h
    have hvalue : record = value := by
      dsimp only at h
      split at h
      · obtain ⟨-, -, h⟩ := exists_of_bind_ok h
        exact Except.ok.inj h
      · cases h
    rw [← hvalue]
    exact fillPositional_preserves hs hfill hQ

end Source

/-- A block of which no run ever began. -/
structure Block.IsFresh (block : Block) : Prop where
  executing : block.executing = false
  inFlight : block.inFlight = 0
  run : block.run = 0

namespace Block

theorem isFresh_new (id : String) (kind : Kind) : (new id kind).IsFresh := ⟨rfl, rfl, rfl⟩

theorem isFresh_generate (id name prompt : String) : (generate id name prompt).IsFresh :=
  ⟨rfl, rfl, rfl⟩

theorem isFresh_input (id name text : String) : (input id name text).IsFresh := ⟨rfl, rfl, rfl⟩

/-- A block that was read from a document is fresh. -/
theorem isFresh_of_decode {δ : Type} [ValueSource δ] {part : δ} {block : Block}
    (h : decode part = .ok block) : block.IsFresh := by
  refine Source.recordOf_preserves (fun slot hslot part change hread record hrecord => ?_) h
    (isFresh_new "" .input)
  simp only [slots, List.mem_cons, List.not_mem_nil, or_false] at hslot
  rcases hslot with rfl | rfl | rfl | rfl | rfl | rfl <;>
    · obtain ⟨value, -, rfl⟩ := exists_of_map_ok hread
      exact ⟨hrecord.executing, hrecord.inFlight, hrecord.run⟩

end Block

end PromptChain

import PromptChain.Proofs.Resolution

/-!
# Identifiers play no part

A mention carries an identifier that no one looks at. So its identifiers may be replaced by any
others in a template (`relabelled?`), each by one of its own, and nothing else changes: the same
names are displayed between the same gaps, and each mention stands for the same as before.

This is not plain from how a mention is resolved, as the identifiers are found along with the
mentions. What was put in the place of one might end a mention that was begun before it and had no
end. But a gap in front of a mention holds no such beginning: it would have taken the mention into
itself (`mentionAt?_eq_none_of_alike`). So the pieces of the template are the same up to
identifiers (`pieces_of_alike`), and all that matters is read off the pieces.
-/

namespace PromptChain.Template

/-- A text that can stand in a mention as its identifier. -/
def IsIdentifier (text : String) : Prop := text ≠ "" ∧ ')' ∉ text.toList

instance (text : String) : Decidable (IsIdentifier text) := instDecidableAnd

/-- A template with other identifiers in its mentions, which are given in order. -/
def relabelled? (template : String) (identifiers : List String) : Option String := do
  let gaps ← gaps? template
  return weave gaps
    (List.zipWith (fun m identifier => { m with identifier }.token) (mentions template) identifiers)

/-- A part of a mention, which is not empty and ends before a character. -/
def EndsAt (last : Char) (part : List Char) : Prop := part ≠ [] ∧ last ∉ part

/-- Two pieces are the same up to the identifiers of mentions. -/
inductive Piece.Alike : Piece → Piece → Prop
  | char (c : Char) : Alike (.char c) (.char c)
  | mention {display identifier identifier' : List Char} :
      EndsAt ']' display → EndsAt ')' identifier → EndsAt ')' identifier' →
      Alike (.mention display identifier) (.mention display identifier')

/-! ## Where a mention begins -/

/-- A text before a mention begins like one, which the mention behind it would end at the latest. -/
inductive Opens : List Char → Prop
  /-- The display goes on. -/
  | display {part : List Char} : ']' ∉ part → Opens ('@' :: '[' :: part)
  /-- The display is complete, and the identifier goes on or is complete. -/
  | identifier {display part : List Char} : EndsAt ']' display → part.head? ≠ some ')' →
      Opens ('@' :: '[' :: (display ++ ']' :: '(' :: part))

/-- A part that is begun and closed later on ends somewhere. -/
theorem exists_endsAt {last c : Char} {cs : List Char} (hc : c ≠ last) (h : last ∈ cs) :
    ∃ part rest, EndsAt last part ∧ c :: cs = part ++ last :: rest := by
  obtain ⟨part, rest, rfl, hpart⟩ := List.eq_append_cons_of_mem h
  exact ⟨c :: part, rest, ⟨List.cons_ne_nil _ _, by simp [hc.symm, hpart]⟩, rfl⟩

section

variable {gap display identifier rest : List Char}

/-- A text that begins like a mention is the beginning of one, whatever the next mention is. -/
theorem Opens.exists_mentionAt? (h : Opens gap) (hdisplay : EndsAt ']' display)
    (hidentifier : EndsAt ')' identifier) :
    ∃ found, mentionAt? (gap ++ ((Piece.mention display identifier).source ++ rest)) =
      some found := by
  cases h with
  | @display part hpart =>
    have hpart' : ']' ∉ part ++ '@' :: '[' :: display := by simp [hpart, hdisplay.2]
    exact ⟨(part ++ '@' :: '[' :: display, identifier, rest),
      mentionAt?_eq_some_iff.2 ⟨⟨by simp, hpart'⟩, hidentifier, by simp [Piece.source]⟩⟩
  | @identifier display' part hdisplay' hpart =>
    obtain ⟨other, later, hother, hlater⟩ : ∃ other later, EndsAt ')' other ∧
        part ++ ((Piece.mention display identifier).source ++ rest) = other ++ ')' :: later := by
      cases part with
      | nil => exact exists_endsAt (by decide) (by simp)
      | cons c part => exact exists_endsAt (by simpa using hpart) (by simp [Piece.source])
    exact ⟨(display', other, later),
      mentionAt?_eq_some_iff.2 ⟨hdisplay', hother, by simp [Piece.source, ← hlater]⟩⟩

/-- If a mention begins before another one, the text between begins like a mention. -/
theorem opens_of_mentionAt? {found : List Char × List Char × List Char} (hgap : gap ≠ [])
    (h : mentionAt? (gap ++ ((Piece.mention display identifier).source ++ rest)) = some found) :
    Opens gap := by
  obtain ⟨part, part', rest'⟩ := found
  obtain ⟨hpart, hpart', heq⟩ := mentionAt?_eq_some_iff.1 h
  -- It opens in the gap, as the next mention begins with another character.
  obtain ⟨gap, rfl, hopened⟩ : ∃ gap', gap = '@' :: '[' :: gap' ∧
      gap' ++ ((Piece.mention display identifier).source ++ rest) =
        part ++ ']' :: '(' :: (part' ++ ')' :: rest') := by
    match gap, hgap with
    | [_], _ => cases (List.cons.inj (List.cons.inj heq).2).1
    | c :: d :: gap, _ => simpa [Piece.source, and_assoc] using heq
  by_cases hmem : ']' ∈ gap
  · obtain ⟨before, gap, rfl, hbefore⟩ := List.eq_append_cons_of_mem hmem
    rw [List.append_assoc, List.cons_append] at hopened
    obtain ⟨rfl, hclosed⟩ := eq_of_append_cons hbefore hpart.2 hopened
    cases gap with
    | nil => cases (List.cons.inj hclosed).1
    | cons c gap =>
      obtain ⟨rfl, hinner⟩ := List.cons.inj hclosed
      refine .identifier hpart fun hhead => ?_
      obtain ⟨gap, rfl⟩ := List.head?_eq_some_iff.1 hhead
      obtain ⟨c, part', rfl⟩ := List.exists_cons_of_ne_nil hpart'.1
      exact hpart'.2 ((List.cons.inj hinner).1 ▸ List.mem_cons_self)
  · exact .display hmem

end

/-- If no mention begins at the start of a text, then also not with other identifiers in the
    mentions behind it. -/
theorem mentionAt?_eq_none_of_alike {ps ps' : List Piece} (halike : List.Forall₂ Piece.Alike ps ps')
    {gap : List Char} (hgap : gap ≠ []) (h : mentionAt? (gap ++ ps.flatMap Piece.source) = none) :
    mentionAt? (gap ++ ps'.flatMap Piece.source) = none := by
  induction halike generalizing gap with
  | nil => exact h
  | @cons piece piece' ps ps' hpiece _ ih =>
    cases hpiece with
    | char c =>
      have hrest := @ih (gap ++ [c]) (by simp) (by simpa [Piece.source] using h)
      simpa [Piece.source] using hrest
    | mention hdisplay hidentifier _ =>
      rw [Option.eq_none_iff_forall_ne_some] at h ⊢
      intro found hfound
      have hopens := opens_of_mentionAt? hgap hfound
      obtain ⟨found', hfound'⟩ := hopens.exists_mentionAt? hdisplay hidentifier
      exact h found' hfound'

/-! ## Pieces -/

/-- The pieces of a template are found again with other identifiers. -/
theorem pieces_of_alike {ps ps' : List Piece} (halike : List.Forall₂ Piece.Alike ps ps')
    (h : pieces (ps.flatMap Piece.source) = ps) : pieces (ps'.flatMap Piece.source) = ps' := by
  induction halike with
  | nil => exact h
  | @cons piece piece' ps ps' hpiece halike ih =>
    rw [List.flatMap_cons] at h ⊢
    cases hpiece with
    | char c =>
      cases hat : mentionAt? (c :: ps.flatMap Piece.source) with
      | some found =>
        obtain ⟨display, identifier, rest⟩ := found
        have hpieces := (pieces_of_mentionAt? hat).symm.trans h
        cases hpieces
      | none =>
        have hrest := (pieces_cons hat).symm.trans h
        have hat' : mentionAt? (c :: ps'.flatMap Piece.source) = none :=
          mentionAt?_eq_none_of_alike halike (List.cons_ne_nil c []) hat
        exact (pieces_cons hat').trans (congrArg _ (ih (List.cons.inj hrest).2))
    | @mention display identifier identifier' hdisplay hidentifier hidentifier' =>
      have hat {identifier : List Char} (hidentifier : EndsAt ')' identifier) (rest : List Char) :
          mentionAt? ((Piece.mention display identifier).source ++ rest) =
            some (display, identifier, rest) :=
        mentionAt?_eq_some_iff.2 ⟨hdisplay, hidentifier, rfl⟩
      have hrest := (pieces_of_mentionAt? (hat hidentifier _)).symm.trans h
      rw [pieces_of_mentionAt? (hat hidentifier' _), ih (List.cons.inj hrest).2]

theorem gapsAmong_of_alike {ps ps' : List Piece} (halike : List.Forall₂ Piece.Alike ps ps')
    (pending : List Char) : gapsAmong pending ps' = gapsAmong pending ps := by
  induction halike generalizing pending with
  | nil => rfl
  | cons hpiece _ ih =>
    cases hpiece with
    | char c => exact ih _
    | mention => exact congrArg (String.ofList pending :: ·) (ih [])

theorem flatMap_pieceText_of_alike {ps ps' : List Piece} (halike : List.Forall₂ Piece.Alike ps ps')
    (previous? : Option Block) :
    ps'.flatMap (pieceText previous?) = ps.flatMap (pieceText previous?) := by
  induction halike with
  | nil => rfl
  | cons hpiece _ ih =>
    rw [List.flatMap_cons, List.flatMap_cons, ih]
    cases hpiece <;> rfl

/-- The mentions of a template get other identifiers. -/
theorem exists_alike {cs : List Char} {identifiers : List String} (start : Nat)
    (hlength : identifiers.length = (mentionsFrom start (pieces cs)).length)
    (hvalid : ∀ identifier ∈ identifiers, IsIdentifier identifier) :
    ∃ ps, List.Forall₂ Piece.Alike (pieces cs) ps ∧
      ∀ start', (mentionsFrom start' ps).map (fun m => (m.display, m.identifier)) =
        List.zip ((mentionsFrom start (pieces cs)).map Mention.display) identifiers := by
  induction cs using pieces.induct generalizing start identifiers with
  | case1 cs display identifier rest hcs _ ih =>
    obtain ⟨hdisplay, hidentifier, -⟩ := mentionAt?_eq_some_iff.1 hcs
    rw [pieces_of_mentionAt? hcs] at hlength ⊢
    cases identifiers with
    | nil => cases hlength
    | cons other identifiers =>
      obtain ⟨⟨hne, hopen⟩, hvalid⟩ := List.forall_mem_cons.1 hvalid
      obtain ⟨ps, halike, hmentions⟩ := ih _ (Nat.succ.inj hlength) hvalid
      have hother : EndsAt ')' other.toList := ⟨by rwa [Ne, String.toList_eq_nil_iff], hopen⟩
      refine ⟨.mention display other.toList :: ps,
        .cons (.mention hdisplay hidentifier hother) halike, fun start' => ?_⟩
      simp [mentionsFrom, hmentions]
  | case2 hnone =>
    rw [pieces] at hlength ⊢
    exact ⟨[], .nil, fun _ => rfl⟩
  | case3 c rest hnone ih =>
    rw [pieces_cons hnone] at hlength ⊢
    obtain ⟨ps, halike, hmentions⟩ := ih _ hlength hvalid
    exact ⟨.char c :: ps, .cons (.char c) halike, fun start' => hmentions _⟩

/-! ## Templates -/

/-- The tokens of mentions depend on what they display and on their identifiers. -/
theorem map_token_of_zip {ms ms' : List Mention} {identifiers : List String}
    (h : ms'.map (fun m => (m.display, m.identifier)) =
      List.zip (ms.map Mention.display) identifiers) :
    ms'.map Mention.token =
      List.zipWith (fun m identifier => { m with identifier }.token) ms identifiers := by
  have htoken : ms'.map Mention.token =
      (List.zip (ms.map Mention.display) identifiers).map fun (display, identifier) =>
        "@[" ++ display ++ "](" ++ identifier ++ ")" := by
    rw [← h, List.map_map]
    rfl
  rw [htoken, List.zip, List.map_zipWith, List.zipWith_map_left]
  rfl

/-- With other identifiers, a template displays the same names between the same gaps, and each
    mention stands for the same as before. -/
theorem resolve_relabelled {template : String} {identifiers : List String}
    (hlength : identifiers.length = (mentions template).length)
    (hvalid : ∀ identifier ∈ identifiers, IsIdentifier identifier)
    (blocks : List Block) (index : Nat) :
    ∃ gaps other, gaps? template = some gaps ∧
      template = weave gaps ((mentions template).map Mention.token) ∧
      relabelled? template identifiers = some other ∧
      gaps? other = some gaps ∧
      (mentions other).map (fun m => (m.display, m.identifier)) =
        List.zip ((mentions template).map Mention.display) identifiers ∧
      (resolve other blocks index).text = (resolve template blocks index).text ∧
      (resolve other blocks index).mentions.map Prod.snd =
        (resolve template blocks index).mentions.map Prod.snd := by
  obtain ⟨ps, halike, hmentions⟩ := exists_alike 0 hlength hvalid
  have hpieces : pieces (String.ofList (ps.flatMap Piece.source)).toList = ps := by
    rw [String.toList_ofList]
    exact pieces_of_alike halike (by rw [flatMap_source_pieces])
  have hgaps := gapsAmong_of_alike halike []
  have hother : mentions (String.ofList (ps.flatMap Piece.source)) = mentionsFrom 0 ps := by
    rw [mentions, hpieces]
  have hdisplays : (mentionsFrom 0 ps).map Mention.display =
      (mentions template).map Mention.display := by
    have hfirst := congrArg (List.map Prod.fst) (hmentions 0)
    rwa [List.map_map, List.map_fst_zip (by rw [List.length_map, ← mentions, hlength])] at hfirst
  refine ⟨_, String.ofList (ps.flatMap Piece.source), gaps?_eq_gapsAmong template,
    (weave_tokens template).symm, ?_, ?_, ?_, ?_, ?_⟩
  · rw [relabelled?, gaps?_eq_gapsAmong, ← weave_gapsAmong_tokens ps 0, hgaps,
      map_token_of_zip (hmentions 0)]
    rfl
  · rw [gaps?_eq_gapsAmong, hpieces, hgaps]
  · rw [hother, hmentions 0, mentions]
  · rw [resolve, resolve, hpieces, flatMap_pieceText_of_alike halike]
  · have houtcomes (ms : List Mention) :
        (ms.map fun m => (m, outcome (previous? blocks index) m.display)).map Prod.snd =
          (ms.map Mention.display).map (outcome (previous? blocks index)) := by
      rw [List.map_map, List.map_map]
      rfl
    rw [resolve, resolve, houtcomes, houtcomes, hother, hdisplays]

/-- Identifiers that read like the marks of the grammar, among beginnings of mentions. -/
theorem resolve_relabelled_marks :
    let template := "é@[](x) @[s](1)@[t](2)@[u]("
    let other := "é@[](x) @[s](@[s](2)@[t](](@[)@[u]("
    let identifiers := ["@[s](2", "](@["]
    let blocks := [Block.input "1" "s" "v"]
    identifiers.length = (mentions template).length ∧
      (∀ identifier ∈ identifiers, IsIdentifier identifier) ∧
      relabelled? template identifiers = some other ∧
      gaps? other = gaps? template ∧
      (mentions other).map Mention.display = ["s", "t"] ∧
      (resolve other blocks 1).text = "é@[](x) v@[u](" := by
  intro template other identifiers blocks
  have hlength : identifiers.length = (mentions template).length := by decide +kernel
  have hvalid : ∀ identifier ∈ identifiers, IsIdentifier identifier := by decide
  obtain ⟨gaps, other', hgaps, -, hother, hgaps', hmentions, htext, -⟩ :=
    resolve_relabelled hlength hvalid blocks 1
  have hsame : relabelled? template identifiers = some other := by decide +kernel
  obtain rfl : other' = other := Option.some.inj (hother.symm.trans hsame)
  have hdisplays : (mentions template).map Mention.display = ["s", "t"] := by decide +kernel
  have hbefore : (resolve template blocks 1).text = "é@[](x) v@[u](" := by decide +kernel
  refine ⟨hlength, hvalid, hsame, hgaps'.trans hgaps.symm, ?_, htext.trans hbefore⟩
  have hfirst := congrArg (List.map Prod.fst) hmentions
  rw [hdisplays, List.map_map] at hfirst
  exact hfirst

end PromptChain.Template

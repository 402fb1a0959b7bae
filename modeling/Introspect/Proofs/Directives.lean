import Introspect.Proofs.Lines

/-!
# What a directive takes out of a line

A directive is a stretch of its line, from its opening mark to its closing one. The scan goes from
the left: it takes out the first directive it meets whole, and goes on behind it. So what is left of
a line is the line itself exactly when no directive stands anywhere in it.
-/

namespace Introspect.Source

/-! ## The stretch of a directive -/

theorem eq_of_untilClose {cs path : List Char} (h : untilClose cs = some path) :
    '\n' ∉ path ∧ ∃ after, cs = path ++ '*' :: '/' :: after := by
  induction cs generalizing path with
  | nil => cases h
  | cons c cs ih =>
      have hcons : ∀ {o : Option (List Char)}, (if c = '\n' then none else o.map (c :: ·)) =
        some path →
          (∀ rest, o = some rest → '\n' ∉ rest ∧ ∃ after, cs = rest ++ '*' :: '/' :: after) →
            '\n' ∉ path ∧ ∃ after, c :: cs = path ++ '*' :: '/' :: after := by
        intro o ho hrest
        split at ho
        · cases ho
        · next hbreak =>
            obtain ⟨rest, hrestEq, rfl⟩ := Option.map_eq_some_iff.mp ho
            obtain ⟨hno, after, rfl⟩ := hrest rest hrestEq
            exact ⟨List.not_mem_cons_of_ne_of_not_mem (Ne.symm hbreak) hno, after, rfl⟩
      unfold untilClose at h
      split at h
      · next heq =>
          cases heq
          cases h
          exact ⟨List.not_mem_nil, _, rfl⟩
      · next heq =>
          cases heq
          exact hcons h fun rest => ih
      · next heq => cases heq

theorem eq_of_pathOf {cs path : List Char} (h : pathOf cs = some path) :
    path ≠ [] ∧ '\n' ∉ path ∧ ∃ after, cs = path ++ '*' :: '/' :: after := by
  cases cs with
  | nil => cases h
  | cons c cs =>
      rw [pathOf] at h
      split at h
      · cases h
      · next hbreak =>
          obtain ⟨rest, hrest, rfl⟩ := Option.map_eq_some_iff.mp h
          obtain ⟨hno, after, rfl⟩ := eq_of_untilClose hrest
          exact ⟨List.cons_ne_nil _ _, List.not_mem_cons_of_ne_of_not_mem (Ne.symm hbreak) hno,
            after, rfl⟩

/-- The characters a directive takes. -/
def Directive.spelled (d : Directive) : List Char :=
  ['/', '*'] ++ d.word ++ ':' :: d.path ++ ['*', '/']

theorem Directive.length_spelled (d : Directive) : d.spelled.length = d.length := by
  simp only [spelled, Directive.length, List.length_append, List.length_cons, List.length_nil]
  omega

theorem eq_of_directiveAt {cs : List Char} {d : Directive} (h : directiveAt cs = some d) :
    ∃ after, cs = d.spelled ++ after := by
  unfold directiveAt at h
  split at h
  · next rest =>
      dsimp only at h
      split at h
      · cases h
      · next hcolon hword =>
          obtain ⟨path, hpath, rfl⟩ := Option.map_eq_some_iff.mp h
          obtain ⟨-, -, after, rfl⟩ := eq_of_pathOf hpath
          have hrest : rest = rest.takeWhile Text.isWord ++ ':' ::
            (path ++ '*' :: '/' :: after) := by
            rw [← hcolon, List.takeWhile_append_dropWhile]
          refine ⟨after, (congrArg (['/', '*'] ++ ·) hrest).trans ?_⟩
          simp [Directive.spelled]
      · cases h
  · cases h

/-! ## The scan -/

theorem parts_skip (k : Nat) : ∀ cs : List Char, parts k cs = parts 0 (cs.drop k) := by
  induction k with
  | zero => intro cs; rfl
  | succ k ih =>
      intro cs
      cases cs with
      | nil => rw [List.drop_nil]; rfl
      | cons c cs => rw [parts, ih, List.drop_succ_cons]

/-- A directive is taken out whole. -/
theorem parts_directive {cs after : List Char} {d : Directive} (h : directiveAt cs = some d)
    (hcs : cs = d.spelled ++ after) : parts 0 cs = .directive d :: parts 0 after := by
  cases cs with
  | nil => cases h
  | cons c rest =>
      have hdrop : (c :: rest).drop d.length = after := by
        rw [hcs, ← d.length_spelled, List.drop_left]
      have hlength : d.length = (d.length - 1) + 1 := by
        rw [Directive.length]
        omega
      rw [hlength, List.drop_succ_cons] at hdrop
      rw [parts, h]
      dsimp only
      rw [parts_skip, hdrop]

theorem stripped_directive {cs after : List Char} {d : Directive} (h : directiveAt cs = some d)
    (hcs : cs = d.spelled ++ after) : stripped cs = stripped after := by
  rw [stripped, parts_directive h hcs]
  rfl

/-- What is left of a line stands in it. -/
theorem stripped_sublist (cs : List Char) : (stripped cs).Sublist cs := by
  -- A directive is passed over whole, so the induction is on the length of the line.
  induction hn : cs.length using Nat.strongRecOn generalizing cs with
  | _ n ih =>
      subst hn
      cases cs with
      | nil => exact List.Sublist.slnil
      | cons c rest =>
          cases hd : directiveAt (c :: rest) with
          | none =>
              rw [stripped_cons hd]
              exact (ih _ (Nat.lt_succ_self _) rest rfl).cons_cons c
          | some d =>
              obtain ⟨after, hafter⟩ := eq_of_directiveAt hd
              have hshorter : after.length < (c :: rest).length := by
                rw [hafter, List.length_append, d.length_spelled, Directive.length]
                omega
              rw [stripped_directive hd hafter, hafter]
              exact (ih _ hshorter after rfl).trans (List.sublist_append_right _ _)

/-- Somewhere in the text a directive starts. -/
def HasDirective (cs : List Char) : Prop := ∃ rest, rest <:+ cs ∧ (directiveAt rest).isSome

theorem hasDirective_cons {c : Char} {cs : List Char} :
    HasDirective (c :: cs) ↔ (directiveAt (c :: cs)).isSome ∨ HasDirective cs := by
  unfold HasDirective
  constructor
  · rintro ⟨rest, hrest, h⟩
    rcases List.suffix_cons_iff.mp hrest with rfl | hrest
    · exact .inl h
    · exact .inr ⟨rest, hrest, h⟩
  · rintro (h | ⟨rest, hrest, h⟩)
    · exact ⟨_, List.suffix_rfl, h⟩
    · exact ⟨rest, hrest.trans (List.suffix_cons _ _), h⟩

/-- A line stays as it is exactly when it has no directive. -/
theorem stripped_eq_self_iff {cs : List Char} : stripped cs = cs ↔ ¬ HasDirective cs := by
  induction cs with
  | nil =>
      refine ⟨fun _ => ?_, fun _ => rfl⟩
      rintro ⟨rest, hrest, h⟩
      rw [List.suffix_nil.mp hrest] at h
      cases h
  | cons c cs ih =>
      rw [hasDirective_cons, not_or, ← ih]
      cases hd : directiveAt (c :: cs) with
      | none =>
          rw [stripped_cons hd, List.cons_inj_right]
          simp
      | some d =>
          obtain ⟨after, hafter⟩ := eq_of_directiveAt hd
          refine iff_of_false (fun h => ?_) fun h => h.1 rfl
          have hle := (stripped_sublist after).length_le
          rw [stripped_directive hd hafter] at h
          rw [h, hafter, List.length_append, d.length_spelled, Directive.length] at hle
          omega

theorem strip_eq_self_iff {line : String} : strip line = line ↔ ¬ HasDirective line.toList := by
  rw [← String.toList_inj, toList_strip, stripped_eq_self_iff]

end Introspect.Source

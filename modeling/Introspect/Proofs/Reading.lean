import Introspect.Json.Reading
import Introspect.Proofs.Scanning

/-!
# Reading printed values

A reader returns the value it is shown, as long as the value has the shape the reader asks for and
does not nest too deep. Each kind of reader has one statement here, about the scan of a value that
was printed; from them the reader of a whole format is put together without looking at a scan again.
-/

namespace Introspect.Json

theorem ok_bind {α β : Type} (x : α) (f : α → Reading β) : (Except.ok x >>= f) = f x := rfl

theorem read_closed : Ending.closed.read = .ok () := rfl

/-! ## Depth -/

theorem depth_lt_of_mem_items {xs : List Json} {d : Nat} (h : depthItems xs < d) :
    ∀ x ∈ xs, x.depth < d := by
  induction xs with
  | nil => exact fun x hx => nomatch hx
  | cons x rest ih =>
      rw [depthItems] at h
      rw [List.forall_mem_cons]
      exact ⟨by omega, ih (by omega)⟩

theorem depth_lt_of_mem_members {ms : List (String × Json)} {d : Nat} (h : depthMembers ms < d) :
    ∀ m ∈ ms, m.2.depth < d := by
  induction ms with
  | nil => exact fun m hm => nomatch hm
  | cons m rest ih =>
      rw [depthMembers] at h
      rw [List.forall_mem_cons]
      exact ⟨by omega, ih (by omega)⟩

theorem descend_succ {depth : Nat} (h : 0 < depth) : descend (depth + 1) = .ok depth := by
  rw [descend, if_neg (by omega), Nat.add_sub_cancel]

/-! ## Values of any shape -/

mutual

/-- A value that does not nest too deep is captured as it is. -/
theorem capture_scanned : ∀ (j : Json) (depth : Nat), j.depth < depth →
    j.scanned.capture depth = .ok j
  | .null, _, _ => rfl
  | .bool _, _, _ => rfl
  | .number _, _, _ => rfl
  | .text _, _, _ => rfl
  | .list xs, 0, h => absurd h (Nat.not_lt_zero _)
  | .list xs, depth + 1, h => by
      rw [Json.depth] at h
      rw [scanned, Scan.capture, descend_succ (by omega), ok_bind,
        captureItems_scanned xs depth (by omega), ok_bind, read_closed]
      rfl
  | .object ms, 0, h => absurd h (Nat.not_lt_zero _)
  | .object ms, depth + 1, h => by
      rw [Json.depth] at h
      rw [scanned, Scan.capture, descend_succ (by omega), ok_bind,
        captureMembers_scanned ms depth (by omega), ok_bind, read_closed]
      rfl

theorem captureItems_scanned : ∀ (xs : List Json) (depth : Nat), depthItems xs < depth →
    Scan.captureItems depth (scannedItems xs) = .ok xs
  | [], _, _ => rfl
  | x :: xs, depth, h => by
      rw [depthItems] at h
      rw [scannedItems, Scan.captureItems, capture_scanned x depth (by omega), ok_bind,
        captureItems_scanned xs depth (by omega)]
      rfl

theorem captureMembers_scanned : ∀ (ms : List (String × Json)) (depth : Nat),
    depthMembers ms < depth → Scan.captureMembers depth (scannedMembers ms) = .ok ms
  | [], _, _ => rfl
  | (key, x) :: ms, depth, h => by
      rw [depthMembers] at h
      rw [scannedMembers, Scan.captureMembers, ok_bind, capture_scanned x depth (by omega), ok_bind,
        captureMembers_scanned ms depth (by omega)]
      rfl

end

mutual

/-- Any value is passed over. -/
theorem skip_scanned : ∀ j : Json, j.scanned.skip = .ok ()
  | .null => rfl
  | .bool _ => rfl
  | .number _ => rfl
  | .text _ => rfl
  | .list xs => by
      rw [scanned, Scan.skip, skipItems_scanned xs, ok_bind, read_closed]
  | .object ms => by
      rw [scanned, Scan.skip, skipMembers_scanned ms, ok_bind, read_closed]

theorem skipItems_scanned : ∀ xs : List Json, Scan.skipItems (scannedItems xs) = .ok ()
  | [] => rfl
  | x :: xs => by
      rw [scannedItems, Scan.skipItems, skip_scanned x, ok_bind, skipItems_scanned xs]

theorem skipMembers_scanned : ∀ ms : List (String × Json),
    Scan.skipMembers (scannedMembers ms) = .ok ()
  | [] => rfl
  | (_, x) :: ms => by
      rw [scannedMembers, Scan.skipMembers, skip_scanned x, ok_bind, skipMembers_scanned ms]

end

/-! ## Readers -/

namespace Reader

/-- The reader returns the value it is shown. -/
def Reads (r : Reader) (depth : Nat) (j : Json) : Prop := r depth j.scanned = .ok j

theorem reads_text (depth : Nat) (s : String) : Reads text depth (.text s) := rfl

theorem reads_natUpTo {high n : Nat} (depth : Nat) (h : n ≤ high) :
    Reads (natUpTo high) depth (.nat n) := by
  have hin : ((Json.nat n).natUpTo? high).isSome = true := by
    rw [natUpTo?, Option.isSome_map, Json.nat, intIn?, if_pos (by omega)]
    rfl
  rw [Json.nat] at hin ⊢
  rw [Reads, scanned, natUpTo, ok_bind, if_pos hin]

theorem reads_optional {r : Reader} {depth : Nat} {j : Json} (h : Reads r depth j) :
    Reads (optional r) depth j := by
  cases j with
  | null => rfl
  | bool b | number n | text s | list xs | object ms => exact h

theorem reads_checked {p : Json → Bool} {r : Reader} {depth : Nat} {j : Json}
    (h : Reads r depth j) (hp : p j = true) : Reads (checked p r) depth j := by
  rw [Reads] at h ⊢
  rw [checked, h, ok_bind, if_pos hp]

theorem items_scanned {r : Reader} {depth : Nat} {xs : List Json} (h : ∀ x ∈ xs, Reads r depth x) :
    items r depth (scannedItems xs) = .ok xs := by
  induction xs with
  | nil => rfl
  | cons x rest ih =>
      rw [List.forall_mem_cons] at h
      rw [scannedItems, items, h.1, ok_bind, ih h.2]
      rfl

theorem reads_list {r : Reader} {depth : Nat} {xs : List Json} (hdepth : 0 < depth)
    (h : ∀ x ∈ xs, Reads r depth x) : Reads (list r) (depth + 1) (.list xs) := by
  rw [Reads, scanned, list, descend_succ hdepth, ok_bind, items_scanned h, ok_bind, read_closed]
  rfl

/-- The members that a table has a reader for. -/
def knownOf (table : List (String × Reader)) (ms : List (String × Json)) : List (String × Json) :=
  ms.filter fun m => (table.lookup m.1).isSome

/-- Members of known names, each with a name of its own, are read by the readers of their names. The
others are passed over. -/
theorem members_scanned {table : List (String × Reader)} {depth : Nat} {ms : List (String × Json)}
    (hread : ∀ m ∈ ms, ∀ r, table.lookup m.1 = some r → Reads r depth m.2)
    (hnodup : ((knownOf table ms).map Prod.fst).Nodup) :
    ∀ {seen : List String}, (∀ m ∈ knownOf table ms, m.1 ∉ seen) →
      members table depth seen (scannedMembers ms) = .ok (knownOf table ms) := by
  induction ms with
  | nil => intro seen _; rfl
  | cons m rest ih =>
      intro seen hseen
      obtain ⟨key, x⟩ := m
      rw [List.forall_mem_cons] at hread
      rw [scannedMembers, members, ok_bind]
      cases hlookup : table.lookup key with
      | none =>
          have hknown : knownOf table ((key, x) :: rest) = knownOf table rest :=
            List.filter_cons_of_neg (by simp [hlookup])
          rw [hknown] at hnodup hseen ⊢
          dsimp only
          rw [skip_scanned, ok_bind, ih hread.2 hnodup hseen]
      | some r =>
          have hknown : knownOf table ((key, x) :: rest) = (key, x) :: knownOf table rest :=
            List.filter_cons_of_pos (by simp [hlookup])
          rw [hknown, List.map_cons, List.nodup_cons] at hnodup
          rw [hknown, List.forall_mem_cons] at hseen
          -- No later member has this name, so it can be added to those that have been seen.
          have hrest : members table depth (key :: seen) (scannedMembers rest) =
              .ok (knownOf table rest) := by
            refine ih hread.2 hnodup.2 fun m hm => ?_
            rw [List.mem_cons, not_or]
            refine ⟨?_, hseen.2 m hm⟩
            intro heq
            exact hnodup.1 (List.mem_map.mpr ⟨m, hm, heq⟩)
          dsimp only
          rw [if_neg hseen.1, hread.1 r hlookup, ok_bind, hrest, hknown]
          rfl

/-- What is read of a record is its known members. -/
theorem record_scanned {table : List (String × Reader)} {complete : List (String × Json) → Bool}
    {depth : Nat} {ms : List (String × Json)} (hdepth : 0 < depth)
    (hread : ∀ m ∈ ms, ∀ r, table.lookup m.1 = some r → Reads r depth m.2)
    (hnodup : ((knownOf table ms).map Prod.fst).Nodup)
    (hcomplete : complete (knownOf table ms) = true) :
    record table complete (depth + 1) (Json.object ms).scanned =
      .ok (.object (knownOf table ms)) := by
  rw [scanned, record, descend_succ hdepth, ok_bind,
    members_scanned hread hnodup fun m _ => List.not_mem_nil, ok_bind, read_closed, ok_bind,
    if_pos hcomplete]

theorem reads_record {table : List (String × Reader)} {complete : List (String × Json) → Bool}
    {depth : Nat} {ms : List (String × Json)} (hdepth : 0 < depth)
    (hknown : ∀ m ∈ ms, ∃ r, table.lookup m.1 = some r ∧ Reads r depth m.2)
    (hnodup : (ms.map Prod.fst).Nodup) (hcomplete : complete ms = true) :
    Reads (record table complete) (depth + 1) (.object ms) := by
  have hall : knownOf table ms = ms := by
    refine List.filter_eq_self.mpr fun m hm => ?_
    obtain ⟨r, hlookup, -⟩ := hknown m hm
    rw [hlookup]
    rfl
  have hread : ∀ m ∈ ms, ∀ r, table.lookup m.1 = some r → Reads r depth m.2 := by
    intro m hm r hr
    obtain ⟨r', hlookup, hreads⟩ := hknown m hm
    rw [hlookup] at hr
    cases hr
    exact hreads
  rw [Reads, record_scanned hdepth hread (by rwa [hall]) (by rwa [hall]), hall]

/-- A member that tells the shape may stand anywhere, but only once. -/
theorem taggedMembers_scanned {tag kind : String} {known : String → Bool} {depth : Nat}
    {ms : List (String × Json)} (hdepth : ∀ m ∈ ms, m.2.depth < depth) (hkind : known kind = true)
    (htag : ∀ m ∈ ms, m.1 = tag → m.2 = .text kind) :
    ∀ {seen : Bool}, (ms.map Prod.fst).count tag + seen.toNat ≤ 1 →
      taggedMembers tag known depth seen (scannedMembers ms) = .ok ms := by
  induction ms with
  | nil => intro seen _; rfl
  | cons m rest ih =>
      intro seen hone
      obtain ⟨key, x⟩ := m
      rw [List.forall_mem_cons] at hdepth htag
      rw [scannedMembers, taggedMembers, ok_bind]
      by_cases hkey : key = tag
      · subst hkey
        rw [List.map_cons, List.count_cons_self] at hone
        have hseen : seen = false := by
          cases seen with
          | false => rfl
          | true => exact absurd hone (by simp)
        subst hseen
        have hread : checked (fun j => j.text?.any known) text depth (scanned (.text kind)) =
            .ok (.text kind) :=
          reads_checked (reads_text depth kind) (by rw [text?, Option.any_some, hkind])
        have hrest : taggedMembers key known depth true (scannedMembers rest) = .ok rest :=
          ih hdepth.2 htag.2 (by simpa using hone)
        rw [if_pos rfl, if_neg Bool.false_ne_true, show x = .text kind from htag.1 rfl, hread,
          ok_bind, hrest]
        rfl
      · rw [List.map_cons, List.count_cons_of_ne hkey] at hone
        rw [if_neg hkey, capture_scanned x depth hdepth.1, ok_bind, ih hdepth.2 htag.2 hone]
        rfl

theorem reads_tagged {tag kind : String} {known : String → Bool} {depth : Nat}
    {ms : List (String × Json)} (hdepth : (Json.object ms).depth ≤ depth)
    (hkind : known kind = true)
    (htag : ∀ m ∈ ms, m.1 = tag → m.2 = .text kind) (hone : (ms.map Prod.fst).count tag = 1) :
    Reads (tagged tag known) (depth + 1) (.object ms) := by
  rw [Json.depth] at hdepth
  have hmembers : taggedMembers tag known depth false (scannedMembers ms) = .ok ms :=
    taggedMembers_scanned (depth_lt_of_mem_members (Nat.lt_of_succ_le hdepth)) hkind htag
      (Nat.le_of_eq hone)
  have htold : (ms.lookup tag).isSome = true := by
    obtain ⟨m, hm, rfl⟩ := List.mem_map.mp (List.count_pos_iff.mp (by rw [hone]; exact Nat.one_pos))
    exact List.lookup_isSome_iff.mpr ⟨m, hm, beq_self_eq_true _⟩
  rw [Reads, scanned, tagged, descend_succ (by omega), ok_bind, hmembers, ok_bind, read_closed,
    ok_bind, if_pos htold]

end Reader

/-- Any text that is scanned as a value is read as the value is. -/
theorem read_of_scan {r : Reader} {text : String} {j j' : Json}
    (htext : scan text.toList = (j.scanned, false)) (h : r nestingLimit j.scanned = .ok j') :
    read r text = .ok j' := by
  rw [read, htext]
  show (do let x ← r nestingLimit j.scanned; if false then .error .malformed else .ok x) = _
  rw [h]
  rfl

/-- A printed value is read back. -/
theorem read_pretty {r : Reader} {j : Json} (hj : j.Exact) (h : r.Reads nestingLimit j) :
    read r j.pretty = .ok j :=
  read_of_scan (scan_pretty hj) h

end Introspect.Json

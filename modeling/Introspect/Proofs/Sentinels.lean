import Introspect.Proofs.Extents
import Introspect.Proofs.NativeText
import Introspect.Proofs.Slots

/-!
# What an array shows

An array is read as far as its length says, and the length is counted elsewhere or found by a scan
for the mark, an element that has no bit set. The scan is an open loop: nothing but the mark ends
it, and it stays in the array's memory only because the mark was put there when the array was made.
Where the values have such an element among them, the scan ends at that one; a text is never one of
them, because the pointer to it is not null.
-/

namespace Introspect

open Text.Utf8 (Bytes)

/-! ## Elements -/

/-- Values that are known by their bytes. -/
class NativeElement (α : Type) extends ArrayElement α where
  size : UInt64
  bytes : α → Bytes
  length_bytes : ∀ x, (bytes x).length = size.toNat
  bytes_injective : Function.Injective bytes
  bytes_zero : bytes zero = List.replicate size.toNat 0

theorem length_bytesOfWord (width : Nat) : ∀ n, (bytesOfWord width n).length = width := by
  induction width with
  | zero => intro n; rfl
  | succ width ih => intro n; exact congrArg Nat.succ (ih _)

theorem wordOfBytes_bytesOfWord (width : Nat) :
    ∀ n, wordOfBytes (bytesOfWord width n) = n % 2 ^ (8 * width) := by
  induction width with
  | zero => intro n; exact (Nat.mod_one n).symm
  | succ width ih =>
      intro n
      show (UInt8.ofNat n).toNat + 256 * wordOfBytes (bytesOfWord width (n / 256)) = _
      rw [ih, Nat.mul_succ, Nat.add_comm, Nat.pow_add, Nat.mul_comm (2 ^ (8 * width)),
        Nat.mod_mul, UInt8.toNat_ofNat']
      exact Nat.add_comm _ _

theorem bytesOfWord_zero (width : Nat) : bytesOfWord width 0 = List.replicate width 0 := by
  induction width with
  | zero => rfl
  | succ width ih =>
      rw [List.replicate_succ, ← ih]
      rfl

/-- The values of a cell lie in memory by the bytes that the cell takes. -/
@[reducible] def Cell.element (c : Cell) : NativeElement c.Host where
  zero := c.ofBits 0
  size := UInt64.ofNat c.width
  bytes v := bytesOfWord c.width (c.toBits v).toNat
  length_bytes v := by
    rw [length_bytesOfWord]
    cases c <;> rfl
  bytes_injective v w h := by
    have hword := congrArg wordOfBytes h
    rw [wordOfBytes_bytesOfWord, wordOfBytes_bytesOfWord, Nat.mod_eq_of_lt (c.toBits_lt v),
      Nat.mod_eq_of_lt (c.toBits_lt w), UInt64.toNat_inj] at hword
    rw [← Slot.as_of c v, ← Slot.as_of c w, Slot.of, Slot.of, hword]
  bytes_zero := by
    have hzero : c.toBits (c.ofBits 0) = 0 := by cases c <;> rfl
    rw [hzero]
    cases c <;> exact bytesOfWord_zero _

instance : NativeElement Binary64 := Cell.element .f64

/-- No bit is set. -/
def isBlank (bytes : Bytes) : Bool := bytes.all (· = 0)

theorem isBlank_bytes {α : Type} [NativeElement α] {x : α} :
    isBlank (NativeElement.bytes x) = true ↔ x = ArrayElement.zero := by
  constructor
  · intro h
    refine NativeElement.bytes_injective ?_
    rw [NativeElement.bytes_zero, List.eq_replicate_iff]
    exact ⟨NativeElement.length_bytes x, fun b hb => of_decide_eq_true (List.all_eq_true.mp h b hb)⟩
  · rintro rfl
    rw [NativeElement.bytes_zero, isBlank, List.all_eq_true]
    exact fun b hb => decide_eq_true (List.eq_of_mem_replicate hb)

namespace NativeArray

/-! ## The scan -/

/-- The bytes of the element at a place, if the block has them. -/
def elementAt? (size : Nat) (block : Bytes) (n : Nat) : Option Bytes :=
  if (n + 1) * size ≤ block.length then some ((block.drop (n * size)).take size) else none

/-- The scan of a block from one place on, element by element, and the place where it ends. -/
inductive Scans (size : Nat) (block : Bytes) : Nat → Nat → Prop
  | found {n : Nat} {bytes : Bytes} : elementAt? size block n = some bytes → isBlank bytes = true →
      Scans size block n n
  | next {n last : Nat} {bytes : Bytes} : elementAt? size block n = some bytes →
      isBlank bytes = false → Scans size block (n + 1) last → Scans size block n last

theorem elementAt?_append {size : Nat} {first rest : Bytes} (h : first.length = size) (n : Nat) :
    elementAt? size (first ++ rest) (n + 1) = elementAt? size rest n := by
  subst h
  have hbound : (n + 1 + 1) * first.length ≤ (first ++ rest).length ↔
      (n + 1) * first.length ≤ rest.length := by
    rw [Nat.succ_mul, List.length_append]
    omega
  have hdrop : (first ++ rest).drop ((n + 1) * first.length) = rest.drop (n * first.length) := by
    rw [Nat.succ_mul, Nat.add_comm, ← List.drop_drop, List.drop_left]
  rw [elementAt?, elementAt?, hdrop]
  exact if_congr hbound rfl rfl

section
variable {α : Type} [NativeElement α]

/-- The bytes of elements, one after another. -/
def blockOf (xs : List α) : Bytes := xs.flatMap NativeElement.bytes

theorem elementAt?_blockOf (x : α) (zs ys : List α) :
    elementAt? (NativeElement.size α).toNat (blockOf (ys ++ x :: zs)) ys.length =
      some (NativeElement.bytes x) := by
  induction ys with
  | nil =>
      have hx := NativeElement.length_bytes x
      show elementAt? _ (NativeElement.bytes x ++ blockOf zs) 0 = _
      rw [← hx, elementAt?, if_pos (by simp), Nat.zero_mul, List.drop_zero, List.take_left]
  | cons y ys ih =>
      show elementAt? _ (NativeElement.bytes y ++ blockOf (ys ++ x :: zs)) (ys.length + 1) = _
      rw [elementAt?_append (NativeElement.length_bytes y), ih]

variable [DecidableEq α]

/-- What is found in a list of elements is what the scan of their bytes comes to. -/
theorem scans_of_leading {zs : List α} : ∀ (ys : List α) {n : Nat}, leading? zs = some n →
    Scans (NativeElement.size α).toNat (blockOf (ys ++ zs)) ys.length (ys.length + n) := by
  induction zs with
  | nil => intro ys n h; cases h
  | cons z zs ih =>
      intro ys n h
      have hread := elementAt?_blockOf z zs ys
      unfold leading? at h
      split at h
      · next hzero =>
          cases h
          exact .found hread (isBlank_bytes.mpr hzero)
      · next hzero =>
          obtain ⟨m, hm, rfl⟩ := Option.map_eq_some_iff.mp h
          refine .next hread (Bool.eq_false_iff.mpr (mt isBlank_bytes.mp hzero)) ?_
          have hrest := ih (ys ++ [z]) hm
          rw [List.append_assoc, List.length_append, List.length_singleton, Nat.add_right_comm,
            Nat.add_assoc] at hrest
          exact hrest

end

section
variable {α : Type} [ArrayElement α]

/-- An element that is not the mark. -/
def isShown [DecidableEq α] (x : α) : Bool := x ≠ ArrayElement.zero

theorem leading?_of_mem [DecidableEq α] {xs : List α} (h : ArrayElement.zero ∈ xs) :
    leading? xs = some (xs.takeWhile isShown).length := by
  induction xs with
  | nil => cases h
  | cons x xs ih =>
      unfold leading?
      split
      · next hzero => rw [List.takeWhile_cons_of_neg (by simp [isShown, hzero])]; rfl
      · next hzero =>
          have hmem := (List.mem_cons.mp h).resolve_left (Ne.symm hzero)
          rw [ih hmem, List.takeWhile_cons_of_pos (by simp [isShown, hzero])]
          rfl

/-- Marks behind the values do not add to what is shown. -/
theorem takeWhile_append_replicate [DecidableEq α] (values : List α) (k : Nat) :
    (values ++ List.replicate k ArrayElement.zero).takeWhile isShown =
    values.takeWhile isShown := by
  induction values with
  | nil => cases k <;> simp [List.replicate_succ, isShown]
  | cons x values ih => rw [List.cons_append, List.takeWhile_cons, List.takeWhile_cons, ih]

/-! ## Memory -/

variable {size : UInt64} {values : List α} {grants : Allocator} {arithmetic : Arithmetic}

theorem memory_fill_zeroed {count request : UInt64} (h : grants request = true) :
    ((zeroed size count request grants).fill values).memory =
      some (values ++
        List.replicate (capacity size count request - values.length) ArrayElement.zero) := by
  have hmemory : (zeroed size count request grants : NativeArray α).memory =
      some (List.replicate (capacity size count request) ArrayElement.zero) := if_pos h
  rw [fill, hmemory, Option.map_some, List.drop_replicate]

/-- There is a place for one more than the values, unless elements have no bytes and one more is not
counted. -/
theorem capacity_succ {n : Nat} (hfits : Fits size n) :
    let count := UInt64.ofNat (n + 1)
    capacity size count (requestedBytes size count) = n + 1 ∨
      size = 0 ∧ n ≠ 0 ∧ capacity size count (requestedBytes size count) = 0 := by
  intro count
  by_cases hsize : size = 0
  · have hcapacity : capacity size count (requestedBytes size count) = (n + 1) % 2 ^ 64 :=
      if_pos hsize
    have hcount := hfits.count_lt
    rw [hcapacity]
    by_cases hlast : n + 1 < 2 ^ 64
    · exact .inl (Nat.mod_eq_of_lt hlast)
    · exact .inr ⟨hsize, by omega, by omega⟩
  · have hcount : count.toNat = n + 1 := Nat.mod_eq_of_lt (hfits.succ_lt hsize)
    have hne : count ≠ 0 := fun hzero => by
      rw [hzero] at hcount
      cases hcount
    exact .inl ((capacity_eq hsize hne hfits.bytes_ofNat_succ_lt).trans hcount)

/-- Behind the values comes the mark. Only where elements have no bytes can there be no place for
it, and then any of the values is one. -/
theorem exists_memory_ofListTerminated (hfits : Fits size values.length)
    (hcounts : arithmetic.Counts (values.length + 1))
    (h : grants (requestedBytes size (UInt64.ofNat (values.length + 1))) = true) :
    ∃ a, ofListTerminated arithmetic size values grants = some a ∧
      ∃ k ≤ 1, a.memory = some (values ++ List.replicate k ArrayElement.zero) ∧
        (k = 0 → size = 0 ∧ values ≠ []) := by
  refine ⟨_, ofListTerminated_of_fits hfits hcounts, _, ?_, memory_fill_zeroed h, ?_⟩
  all_goals rcases capacity_succ hfits with hcapacity | ⟨hsize, hne, hcapacity⟩
  · omega
  · omega
  · omega
  · exact fun _ => ⟨hsize, List.length_pos_iff.mp (Nat.pos_of_ne_zero hne)⟩

/-- There is always a mark for the scan to find. -/
theorem zero_mem {k : Nat} (h : k = 0 → size = 0 ∧ values ≠ [])
    (hzero : size = 0 → ∀ x : α, x = ArrayElement.zero) :
    ArrayElement.zero ∈ values ++ List.replicate k ArrayElement.zero := by
  rw [List.mem_append]
  by_cases hk : k = 0
  · obtain ⟨hsize, hvalues⟩ := h hk
    obtain ⟨x, hx⟩ := List.exists_mem_of_ne_nil values hvalues
    exact .inl (hzero hsize x ▸ hx)
  · exact .inr (List.mem_replicate.mpr ⟨hk, rfl⟩)

theorem exists_memory_ofList (hfits : Fits size values.length)
    (h : grants (requestedBytes size (UInt64.ofNat values.length)) = true) :
    ∃ a, ofList arithmetic size values grants = some a ∧ a.length.toNat = values.length ∧
      ∃ k, a.memory = some (values ++ List.replicate k ArrayElement.zero) := by
  have hmade : ofList arithmetic size values grants = some _ :=
    congrArg (Option.map _) (make_of_counts (Arithmetic.counts_of_lt hfits.bytes_ofNat_lt))
  exact ⟨_, hmade, hfits.toNat_ofNat, _, memory_fill_zeroed h⟩

end

/-! ## Reading -/

section
variable {α : Type} {values : List α}

/-- A view of so many of the values. -/
theorem copy?_of_le {a : NativeArray α} {rest : List α} {n : Nat}
    (hmemory : a.memory = some (values ++ rest)) (hlength : a.length.toNat = n)
    (h : n ≤ values.length) : a.copy? = some (values.take n) := by
  subst hlength
  have hle : a.length.toNat ≤ (values ++ rest).length := by
    rw [List.length_append]
    omega
  rw [copy?, hmemory]
  show (if _ then _ else _) = _
  rw [if_pos hle, List.take_append_of_le_length h]

/-- A negative length is none. -/
theorem toNat_length_setLength (a : NativeArray α) (n : Int64) :
    (a.setLength n).length.toNat = n.toInt.toNat := by
  show (if n < 0 then 0 else n.toUInt64).toNat = _
  split
  · next h =>
      have hneg : n.toInt < 0 := Int64.lt_iff_toInt_lt.mp h
      exact (Int.toNat_of_nonpos (Int.le_of_lt hneg)).symm
  · next h =>
      have hnonneg : 0 ≤ n.toInt := Int.not_lt.mp fun hneg => h (Int64.lt_iff_toInt_lt.mpr hneg)
      have hword : (n.toInt % 2 ^ 64).toNat = n.toUInt64.toNat := Cell.toInt_emod n.toBitVec
      rw [← hword, Int.emod_eq_of_lt hnonneg (Int.lt_trans n.toInt_lt (by decide))]

/-- Given a length, an array shows so many of the values, and none for a negative one. -/
def Counts (a : NativeArray α) (values : List α) : Prop :=
  ∀ n : Int64, (0 ≤ n.toInt → n.toInt ≤ values.length →
      (a.setLength n).copy? = some (values.take n.toInt.toNat)) ∧
    (n.toInt < 0 → (a.setLength n).copy? = some [])

theorem counts_of_memory {a : NativeArray α} {rest : List α}
    (h : a.memory = some (values ++ rest)) : Counts a values := by
  intro n
  have hlength := toNat_length_setLength a n
  have hmemory : (a.setLength n).memory = some (values ++ rest) := h
  constructor
  · intro hnonneg hle
    exact copy?_of_le hmemory hlength (by omega)
  · intro hneg
    rw [Int.toNat_of_nonpos (Int.le_of_lt hneg)] at hlength
    exact copy?_of_le hmemory hlength (Nat.zero_le _)

variable [ArrayElement α] [DecidableEq α]

/-- Where the memory has the values and then marks, or a value that is one, the scan finds what is
shown of the values. -/
theorem scan?_of_memory {a : NativeArray α} {k : Nat}
    (hmemory : a.memory = some (values ++ List.replicate k ArrayElement.zero))
    (hmark : ArrayElement.zero ∈ values ++ List.replicate k ArrayElement.zero)
    (hcount : values.length < 2 ^ 64) :
    ∃ b, a.scan? = some b ∧ b.memory = a.memory ∧
      b.length.toNat = (values.takeWhile isShown).length ∧
      b.copy? = some (values.takeWhile isShown) := by
  have hprefix := List.takeWhile_prefix (p := isShown) (l := values)
  have hlength : (UInt64.ofNat (values.takeWhile isShown).length).toNat =
      (values.takeWhile isShown).length :=
    Nat.mod_eq_of_lt (Nat.lt_of_le_of_lt hprefix.length_le hcount)
  have hscan : a.scan? =
      some { a with length := UInt64.ofNat (values.takeWhile isShown).length } := by
    rw [scan?, hmemory]
    show (leading? _).map _ = _
    rw [leading?_of_mem hmark, takeWhile_append_replicate]
    rfl
  have hcopy := copy?_of_le
    (a := { a with length := UInt64.ofNat (values.takeWhile isShown).length })
    hmemory hlength hprefix.length_le
  rw [← List.prefix_iff_eq_take.mp hprefix] at hcopy
  exact ⟨_, hscan, rfl, hlength, hcopy⟩

end

/-! ## Elements by their bytes -/

section
variable {α : Type} [NativeElement α]

/-- Without bytes, values cannot be told apart. -/
theorem eq_zero_of_size (h : NativeElement.size α = 0) (x : α) : x = ArrayElement.zero := by
  have hlength : (NativeElement.bytes x).length = 0 := by
    rw [NativeElement.length_bytes, h]
    rfl
  rw [← isBlank_bytes, List.eq_nil_of_length_eq_zero hlength]
  rfl

theorem isShown_eq [DecidableEq α] :
    (isShown : α → Bool) = fun x => !isBlank (NativeElement.bytes x) := by
  funext x
  rw [isShown, Bool.eq_iff_iff, decide_eq_true_eq, Bool.not_eq_true', Bool.eq_false_iff, ne_eq,
    ne_eq, isBlank_bytes]

end

/-! ## Texts -/

section
variable {grants : Allocator} {texts : List String}

theorem textPointer_of_granted {s : String} (h : grants (textRequest s) = true) :
    textPointer s grants = some (Text.Utf8.encode s.toList ++ [0]) := if_pos h

theorem textBehind_textPointer {s : String} (h : grants (textRequest s) = true) :
    textBehind (textPointer s grants) = untilNul s := by
  rw [textPointer_of_granted h]
  exact Memory.visibleText_encode s []

/-- No pointer to a text is a mark. -/
theorem takeWhile_textPointer (h : ∀ s ∈ texts, grants (textRequest s) = true) :
    (texts.map (textPointer · grants)).takeWhile isShown = texts.map (textPointer · grants) := by
  rw [List.takeWhile_eq_self_iff]
  intro p hp
  obtain ⟨s, hs, rfl⟩ := List.mem_map.mp hp
  show isShown (textPointer s grants) = true
  rw [textPointer_of_granted (h s hs)]
  rfl

theorem copyTexts?_of_copy? {a : NativeArray TextPointer}
    (h : ∀ s ∈ texts, grants (textRequest s) = true)
    (hcopy : a.copy? = some (texts.map (textPointer · grants))) :
    a.copyTexts? = some (texts.map untilNul) := by
  rw [copyTexts?, hcopy, Option.map_some, List.map_map]
  exact congrArg some (List.map_congr_left fun s hs => textBehind_textPointer (h s hs))

/-- Given a length, an array shows so many of the texts. -/
def CountsTexts (a : NativeArray TextPointer) (texts : List String) : Prop :=
  ∀ n : Int64, (0 ≤ n.toInt → n.toInt ≤ texts.length →
      (a.setLength n).copyTexts? = some ((texts.take n.toInt.toNat).map untilNul)) ∧
    (n.toInt < 0 → (a.setLength n).copyTexts? = some [])

theorem Counts.countsTexts {a : NativeArray TextPointer}
    (h : Counts a (texts.map (textPointer · grants)))
    (hgrants : ∀ s ∈ texts, grants (textRequest s) = true) : CountsTexts a texts := by
  intro n
  obtain ⟨hcount, hnone⟩ := h n
  rw [List.length_map, ← List.map_take] at hcount
  refine ⟨fun hnonneg hle => ?_, fun hneg => ?_⟩
  · exact copyTexts?_of_copy? (fun s hs => hgrants s (List.mem_of_mem_take hs)) (hcount hnonneg hle)
  · rw [copyTexts?, hnone hneg]
    rfl

end

/-! ## Arrays of all kinds -/

/-- What arrays show of the values they were made of, when the memory for them is granted and the
values are counted. -/
structure Shows (arithmetic : Arithmetic) (grants : Allocator) : Prop where
  /-- A copy with a mark is scanned within its memory, which ends with the mark. The scan ends at
  the first element without a set bit, wherever the view ended before. -/
  scanned : ∀ {α : Type} [NativeElement α] [DecidableEq α] (values : List α),
    Fits (NativeElement.size α) values.length → arithmetic.Counts (values.length + 1) →
    grants (requestedBytes (NativeElement.size α) (UInt64.ofNat (values.length + 1))) = true →
      let shown := values.takeWhile fun x => !isBlank (NativeElement.bytes x)
      ∃ a, ofListTerminated arithmetic (NativeElement.size α) values grants = some a ∧
      ∃ xs, a.memory = some xs ∧ values <+: xs ∧ xs.length ≤ values.length + 1 ∧
        Scans (NativeElement.size α).toNat (blockOf xs) 0 shown.length ∧
        ∀ k, ∃ b, { a with length := k }.scan? = some b ∧ b.memory = a.memory ∧
          b.length.toNat = shown.length ∧ b.copy? = some shown
  counted : ∀ {α : Type} [NativeElement α] (values : List α),
    Fits (NativeElement.size α) values.length →
      (grants (requestedBytes (NativeElement.size α) (UInt64.ofNat values.length)) = true →
        ∃ a, ofList arithmetic (NativeElement.size α) values grants = some a ∧ Counts a values) ∧
      (arithmetic.Counts (values.length + 1) →
        grants (requestedBytes (NativeElement.size α) (UInt64.ofNat (values.length + 1))) = true →
        ∃ a, ofListTerminated arithmetic (NativeElement.size α) values grants = some a ∧
          Counts a values)
  /-- No text is a mark, so all texts are found. -/
  textsScanned : ∀ texts : List String, Fits 8 texts.length →
    (∀ s ∈ texts, grants (textRequest s) = true) →
    grants (requestedBytes 8 (UInt64.ofNat (texts.length + 1))) = true →
      ∃ a, ofTextsTerminated arithmetic texts grants = some a ∧
      ∀ k, ∃ b, { a with length := k }.scan? = some b ∧ b.memory = a.memory ∧
        b.length.toNat = texts.length ∧ b.copyTexts? = some (texts.map untilNul)
  textsCounted : ∀ texts : List String, Fits 8 texts.length →
    (∀ s ∈ texts, grants (textRequest s) = true) →
      (grants (requestedBytes 8 (UInt64.ofNat texts.length)) = true →
        ∃ a, ofTexts arithmetic texts grants = some a ∧ CountsTexts a texts) ∧
      (grants (requestedBytes 8 (UInt64.ofNat (texts.length + 1))) = true →
        ∃ a, ofTextsTerminated arithmetic texts grants = some a ∧ CountsTexts a texts)
  null : ∀ {α : Type} [ArrayElement α] [DecidableEq α] (a : NativeArray α), a.isNull = true →
    a.scan? = some { a with length := 0 } ∧ a.copy? = some []
  nullTexts : ∀ a : NativeArray TextPointer, a.isNull = true → a.copyTexts? = some []
  truths : ∀ bs : List Bool, Fits 4 bs.length →
    grants (requestedBytes 4 (UInt64.ofNat bs.length)) = true →
      ∃ a, ofBools arithmetic bs grants = some a ∧ a.copyBools? = some bs

/-- Pointers that are counted leave room for the count of one more. -/
theorem counts_succ_of_fits {arithmetic : Arithmetic} {n : Nat} (h : Fits 8 n) :
    arithmetic.Counts (n + 1) :=
  Arithmetic.counts_of_lt (h.succ_lt (by decide))

theorem shows (arithmetic : Arithmetic) (grants : Allocator) : Shows arithmetic grants where
  scanned {α} _ _ values hfits hcounts hgrants := by
    intro shown
    obtain ⟨a, ha, k, hk, hmemory, hplace⟩ := exists_memory_ofListTerminated hfits hcounts hgrants
    have hmark := zero_mem hplace eq_zero_of_size
    have hleading := leading?_of_mem hmark
    rw [takeWhile_append_replicate, isShown_eq] at hleading
    refine ⟨a, ha, _, hmemory, List.prefix_append _ _, ?_, ?_, fun n => ?_⟩
    · rw [List.length_append, List.length_replicate]
      omega
    · have hscans := scans_of_leading [] hleading
      rw [List.length_nil, Nat.zero_add] at hscans
      exact hscans
    · have hscan := scan?_of_memory (a := { a with length := n }) hmemory hmark hfits.count_lt
      rw [isShown_eq] at hscan
      exact hscan
  counted values hfits := by
    refine ⟨fun h => ?_, fun hcounts h => ?_⟩
    · obtain ⟨a, ha, -, k, hmemory⟩ := exists_memory_ofList hfits h
      exact ⟨a, ha, counts_of_memory hmemory⟩
    · obtain ⟨a, ha, k, -, hmemory, -⟩ := exists_memory_ofListTerminated hfits hcounts h
      exact ⟨a, ha, counts_of_memory hmemory⟩
  textsScanned texts hfits htexts hgrants := by
    have hlength : (texts.map (textPointer · grants)).length = texts.length := List.length_map _
    rw [← hlength] at hfits hgrants
    obtain ⟨a, ha, k, -, hmemory, hplace⟩ :=
      exists_memory_ofListTerminated hfits (counts_succ_of_fits hfits) hgrants
    have hmark := zero_mem hplace fun h => absurd h (by decide)
    refine ⟨a, ha, fun n => ?_⟩
    obtain ⟨b, hscan, hb, hcount, hcopy⟩ :=
      scan?_of_memory (a := { a with length := n }) hmemory hmark hfits.count_lt
    rw [takeWhile_textPointer htexts] at hcount hcopy
    exact ⟨b, hscan, hb, hcount.trans hlength, copyTexts?_of_copy? htexts hcopy⟩
  textsCounted texts hfits htexts := by
    have hlength : (texts.map (textPointer · grants)).length = texts.length := List.length_map _
    rw [← hlength] at hfits ⊢
    refine ⟨fun h => ?_, fun h => ?_⟩
    · obtain ⟨a, ha, -, k, hmemory⟩ := exists_memory_ofList hfits h
      exact ⟨a, ha, (counts_of_memory hmemory).countsTexts htexts⟩
    · obtain ⟨a, ha, k, -, hmemory, -⟩ :=
        exists_memory_ofListTerminated hfits (counts_succ_of_fits hfits) h
      exact ⟨a, ha, (counts_of_memory hmemory).countsTexts htexts⟩
  null a h := by
    have hmemory : a.memory = none := Option.isNone_iff_eq_none.mp h
    exact ⟨by rw [scan?, hmemory], by rw [copy?, hmemory]⟩
  nullTexts a h := by
    rw [copyTexts?, copy?, Option.isNone_iff_eq_none.mp h]
    rfl
  truths bs hfits hgrants := by
    have hlength : (bs.map truth).length = bs.length := List.length_map _
    rw [← hlength] at hfits hgrants
    obtain ⟨a, ha, hcount, k, hmemory⟩ := exists_memory_ofList hfits hgrants
    have hcopy := copy?_of_le hmemory hcount (Nat.le_refl _)
    have hback : ∀ b, decide (truth b ≠ 0) = b := by decide
    refine ⟨a, ha, ?_⟩
    rw [copyBools?, hcopy, List.take_length, Option.map_some, List.map_map]
    exact congrArg some ((List.map_congr_left fun b _ => hback b).trans (List.map_id _))

/-- A number, a negative zero, a zero and another number. -/
def zeros : List Binary64 :=
  [⟨0x3FF8000000000000⟩, ⟨0x8000000000000000⟩, ⟨0⟩, ⟨0x4000000000000000⟩]

/-- A negative zero has its sign set and is no mark; a zero among the values is one. -/
theorem shows_zeros :
    Fits (NativeElement.size Binary64) zeros.length ∧
      Allocator.upTo largestRequest
        (requestedBytes (NativeElement.size Binary64) (UInt64.ofNat (zeros.length + 1))) = true ∧
      Arithmetic.Counts .checked (zeros.length + 1) ∧
      ∃ a, ofListTerminated .checked 8 zeros = some a ∧
        ∃ b, { a with length := 4 }.scan? = some b ∧ b.length.toNat = 2 ∧
          b.copy? = some [⟨0x3FF8000000000000⟩, ⟨0x8000000000000000⟩] := by
  have hfits : Fits (NativeElement.size Binary64) zeros.length := ⟨by decide, by decide, by decide⟩
  have hcounts : Arithmetic.Counts .checked (zeros.length + 1) := fun _ => by decide
  obtain ⟨a, ha, -, -, -, -, -, hscan⟩ :=
    (shows .checked (Allocator.upTo largestRequest)).scanned zeros hfits hcounts (by decide)
  obtain ⟨b, hb, -, hlength, hcopy⟩ := hscan 4
  exact ⟨hfits, by decide, hcounts, a, ha, b, hb, hlength, hcopy⟩

end NativeArray

end Introspect

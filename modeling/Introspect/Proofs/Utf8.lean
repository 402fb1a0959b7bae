import Introspect.Text.Utf8
import Mathlib.Algebra.Group.Nat.Defs

/-!
# Characters through bytes

The bytes of a text are decoded as the text. Each of the four lengths of a character has a first
byte that announces it and the range of the second, so that the decoder comes back between
characters with the number it started from. The ranges leave out what no character is written as:
numbers that fit into fewer bytes, surrogates, and numbers beyond the last character.

Since the decoder is back between characters, what stands behind a text is decoded as it would be
alone. And since the ranges leave no number that fits into fewer bytes, a decoded character is NUL
only where there is a zero among the bytes.
-/

namespace Introspect.Text.Utf8

/-! ## First bytes -/

theorem lead_one {n : Nat} (h : n < 0x80) : lead n = some (0, n, 0x80, 0xBF) := if_pos h

theorem lead_two {k : Nat} (hlow : 2 ≤ k) (hhigh : k < 32) :
    lead (0xC0 + k) = some (1, k, 0x80, 0xBF) := by
  rw [lead, if_neg (by omega), if_neg (by omega), if_pos (by omega), Nat.add_sub_cancel_left]

theorem lead_three : ∀ k < 16, lead (0xE0 + k) =
    some (2, k, if k = 0 then 0xA0 else 0x80, if k = 0xD then 0x9F else 0xBF) := by
  decide

theorem lead_four : ∀ k < 5, lead (0xF0 + k) =
    some (3, k, if k = 0 then 0x90 else 0x80, if k = 4 then 0x8F else 0xBF) := by
  decide

/-! ## Steps -/

theorem run_ofNat (q : State) {b : Nat} (h : b < 256) (rest : Bytes) :
    run q (UInt8.ofNat b :: rest) = (step q b).1 ++ run (step q b).2 rest := by
  rw [run, UInt8.toNat_ofNat_of_lt' h]

theorem run_last {bits k low high : Nat} (hk : k < 64) (hlow : low ≤ 0x80 + k)
    (hhigh : 0x80 + k ≤ high) (rest : Bytes) :
    run (.within bits 1 low high) (UInt8.ofNat (0x80 + k) :: rest) =
      some (Char.ofNat (bits * 64 + k)) :: run .between rest := by
  rw [run_ofNat _ (by omega), step, if_pos ⟨hlow, hhigh⟩, if_pos rfl,
    show (0x80 + k) % 64 = k by omega]
  rfl

theorem run_inner {bits owed k low high : Nat} (hk : k < 64) (hlow : low ≤ 0x80 + k)
    (hhigh : 0x80 + k ≤ high) (howed : 0 < owed) (rest : Bytes) :
    run (.within bits (owed + 1) low high) (UInt8.ofNat (0x80 + k) :: rest) =
      run (.within (bits * 64 + k) owed 0x80 0xBF) rest := by
  rw [run_ofNat _ (by omega), step, if_pos ⟨hlow, hhigh⟩, if_neg (by omega),
    show (0x80 + k) % 64 = k by omega, Nat.add_sub_cancel]
  rfl

theorem run_lead {b bits owed low high : Nat} (hb : b < 256)
    (h : lead b = some (owed + 1, bits, low, high)) (rest : Bytes) :
    run .between (UInt8.ofNat b :: rest) = run (.within bits (owed + 1) low high) rest := by
  rw [run_ofNat _ hb, step, start, h]
  rfl

/-! ## Characters -/

/-- No character is a surrogate, and none is beyond the last. -/
theorem toNat_cases (c : Char) : c.toNat < 0xD800 ∨ 0xDFFF < c.toNat ∧ c.toNat < 0x110000 := c.valid

theorem run_encodeChar (c : Char) (rest : Bytes) :
    run .between (encodeChar c ++ rest) = some c :: run .between rest := by
  have hvalid := toNat_cases c
  have hc : Char.ofNat c.toNat = c := Char.ofNat_toNat c
  generalize hn : c.toNat = n at hvalid hc
  have hlast : n / 1 % 64 < 64 := Nat.mod_lt _ (by decide)
  have hmiddle : n / 64 % 64 < 64 := Nat.mod_lt _ (by decide)
  have hupper : n / 4096 % 64 < 64 := Nat.mod_lt _ (by decide)
  -- In each range of numbers the bytes give back the digits of `n` in base 64.
  unfold encodeChar
  simp only [hn]
  split
  · next h =>
      rw [List.cons_append, List.nil_append, run_ofNat _ (by omega), step, start, lead_one h]
      dsimp only
      rw [hc]
      rfl
  · split
    · have hlead := lead_two (k := n / 64) (by omega) (by omega)
      rw [List.cons_append, List.cons_append, List.nil_append, run_lead (by omega) hlead,
        run_last hlast (by omega) (by omega), show n / 64 * 64 + n / 1 % 64 = n by omega, hc]
    · split
      · have hlead := lead_three (n / 4096) (by omega)
        rw [List.cons_append, List.cons_append, List.cons_append, List.nil_append,
          run_lead (by omega) hlead, run_inner hmiddle ?_ ?_ Nat.zero_lt_one,
          run_last hlast (by omega) (by omega),
          show (n / 4096 * 64 + n / 64 % 64) * 64 + n / 1 % 64 = n by omega, hc]
        · split <;> omega
        · split <;> omega
      · have hlead := lead_four (n / 262144) (by omega)
        rw [List.cons_append, List.cons_append, List.cons_append, List.cons_append,
          List.nil_append, run_lead (by omega) hlead, run_inner hupper ?_ ?_ Nat.zero_lt_two,
          run_inner hmiddle (by omega) (by omega) Nat.zero_lt_one,
          run_last hlast (by omega) (by omega), show ((n / 262144 * 64 + n / 4096 % 64) * 64 +
            n / 64 % 64) * 64 + n / 1 % 64 = n by omega, hc]
        · split <;> omega
        · split <;> omega

/-- Characters are decoded one by one, whatever bytes follow them. -/
theorem run_encode_append (cs : List Char) (rest : Bytes) :
    run .between (encode cs ++ rest) = cs.map some ++ run .between rest := by
  induction cs with
  | nil => rfl
  | cons c cs ih =>
      rw [encode, List.flatMap_cons, List.append_assoc, run_encodeChar, ← encode, ih, List.map_cons,
        List.cons_append]

theorem run_encode (cs : List Char) : run .between (encode cs) = cs.map some := by
  have h := run_encode_append cs []
  rwa [List.append_nil, run, List.append_nil] at h

/-- What stands behind a text does not change how it is decoded. -/
theorem decode_encode_append (cs : List Char) (rest : Bytes) :
    decode (encode cs ++ rest) = cs ++ decode rest := by
  rw [decode, run_encode_append, List.map_append, List.map_map, decode]
  congr 1
  exact List.map_id cs

/-- A text is decoded from its bytes. -/
theorem decode?_encode (cs : List Char) : decode? (encode cs) = some cs := by
  rw [decode?, run_encode]
  induction cs with
  | nil => rfl
  | cons c rest ih =>
      rw [List.map_cons, List.mapM_cons, id, ih]
      rfl

/-! ## The library's encoding -/

/-- The bytes of a character are those of the library's encoding. -/
theorem encodeChar_eq (c : Char) : encodeChar c = String.utf8EncodeChar c := by
  have hmax : c.toNat < 0x110000 := by have := toNat_cases c; omega
  unfold encodeChar String.utf8EncodeChar
  dsimp only
  rw [show c.val.toNat = c.toNat from rfl]
  generalize c.toNat = n at hmax
  simp only [Nat.div_one, Nat.add_comm _ (n / _), Nat.add_comm _ (n / _ % 64),
    Nat.add_comm _ (n % 64)]
  by_cases h1 : n < 0x80
  · rw [if_pos h1, if_pos (show n ≤ 0x7F by omega)]
  · rw [if_neg h1, if_neg (show ¬ n ≤ 0x7F by omega)]
    by_cases h2 : n < 0x800
    · rw [if_pos h2, if_pos (show n ≤ 0x7FF by omega),
        Nat.mod_eq_of_lt (show n / 64 < 0x20 by omega)]
    · rw [if_neg h2, if_neg (show ¬ n ≤ 0x7FF by omega)]
      by_cases h3 : n < 0x10000
      · rw [if_pos h3, if_pos (show n ≤ 0xFFFF by omega),
          Nat.mod_eq_of_lt (show n / 4096 < 0x10 by omega)]
      · rw [if_neg h3, if_neg (show ¬ n ≤ 0xFFFF by omega),
          Nat.mod_eq_of_lt (show n / 262144 < 8 by omega)]

/-- The bytes of a text are those the library holds for it. -/
theorem bytes_eq_encode (s : String) : s.toByteArray.data.toList = encode s.toList := by
  have hs : s.toByteArray = s.toList.utf8Encode :=
    congrArg String.toByteArray (String.ofList_toList (s := s)).symm
  rw [hs, List.utf8Encode, List.data_toByteArray, encode, funext encodeChar_eq]

/-! ## Numbers of decoded characters -/

/-- Whichever bytes complete what has been read so far, the number they give is that of a character
above NUL: it lies between the ones that the lowest and the highest bytes give. -/
def State.Open : State → Prop
  | .between => True
  | .within bits owed low high =>
      let least := (bits * 64 + (low - 0x80)) * 64 ^ (owed - 1)
      let greatest := (bits * 64 + (high - 0x80)) * 64 ^ (owed - 1) + (64 ^ (owed - 1) - 1)
      1 ≤ owed ∧ owed ≤ 3 ∧ 0x80 ≤ low ∧ high ≤ 0xBF ∧ 0 < least ∧
        (greatest < 0xD800 ∨ 0xDFFF < least ∧ greatest < 0x110000)

instance : DecidablePred State.Open
  | .between => .isTrue trivial
  | .within .. => inferInstanceAs (Decidable (_ ∧ _))

theorem ofNat_ne_nul {n : Nat} (hn : 0 < n) (hvalid : n < 0xD800 ∨ 0xDFFF < n ∧ n < 0x110000) :
    Char.ofNat n ≠ '\x00' := by
  intro h
  have hofNat : Char.ofNat n = Char.ofNatAux n hvalid := dif_pos hvalid
  have hzero : n = 0 := congrArg Char.toNat (hofNat.symm.trans h)
  omega

theorem open_start : ∀ b < 256, b ≠ 0 → (start b).2.Open ∧ ∀ c ∈ (start b).1, c ≠ some '\x00' := by
  decide +kernel

theorem open_step {q : State} {b : Nat} (hq : q.Open) (hb : b < 256) (hzero : b ≠ 0) :
    (step q b).2.Open ∧ ∀ c ∈ (step q b).1, c ≠ some '\x00' := by
  cases q with
  | between => exact open_start b hb hzero
  | within bits owed low high =>
      obtain ⟨howed, howed', hlow, hhigh, hleast, hvalid⟩ := hq
      unfold step
      dsimp only
      split
      · next hrange =>
          have hmod : b % 64 = b - 0x80 := by omega
          split
          · next hone =>
              subst hone
              refine ⟨trivial, List.forall_mem_singleton.mpr ?_⟩
              rw [hmod]
              intro h
              refine ofNat_ne_nul ?_ ?_ (Option.some.inj h)
              · simp only [Nat.sub_self, Nat.pow_zero] at hleast
                omega
              · simp only [Nat.sub_self, Nat.pow_zero] at hvalid
                omega
          · next hmore =>
              refine ⟨?_, List.forall_mem_nil _⟩
              rw [hmod]
              obtain rfl | rfl : owed = 2 ∨ owed = 3 := by omega
              · simp only [State.Open, Nat.reduceSub, Nat.reducePow] at hleast hvalid ⊢
                omega
              · simp only [State.Open, Nat.reduceSub, Nat.reducePow] at hleast hvalid ⊢
                omega
      · obtain ⟨hopen, hout⟩ := open_start b hb hzero
        exact ⟨hopen, List.forall_mem_cons.mpr ⟨nofun, hout⟩⟩

/-- Bytes other than NUL are decoded to characters other than NUL. -/
theorem ne_nul_of_mem_run {bs : Bytes} (h : (0 : UInt8) ∉ bs) :
    ∀ {q : State}, q.Open → ∀ c ∈ run q bs, c ≠ some '\x00' := by
  induction bs with
  | nil =>
      intro q _
      cases q with
      | between => exact List.forall_mem_nil _
      | within => exact List.forall_mem_singleton.mpr nofun
  | cons b rest ih =>
      intro q hq
      rw [List.mem_cons, not_or] at h
      have hb : b.toNat ≠ 0 := fun hb => h.1 (UInt8.toNat_inj.mp hb).symm
      obtain ⟨hopen, hout⟩ := open_step hq b.toNat_lt hb
      rw [run]
      exact List.forall_mem_append.mpr ⟨hout, ih h.2 hopen⟩

theorem nul_not_mem_decode {bs : Bytes} (h : (0 : UInt8) ∉ bs) : '\x00' ∉ decode bs := by
  intro hmem
  obtain ⟨c, hc, heq⟩ := List.mem_map.mp hmem
  cases c with
  | none => cases heq
  | some c => exact ne_nul_of_mem_run h (q := .between) trivial _ hc (congrArg some heq)
end Introspect.Text.Utf8

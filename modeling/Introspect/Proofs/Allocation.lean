import Introspect.Proofs.Variables
import Mathlib.Data.List.Count
import Mathlib.Data.List.Nodup

/-!
# Names given out

The variables of a function are asked for one after another, each by a name. What is given out under
one name carries the numbers from the first one on, one for each time the name was asked for
(`Remembers`). So the variables are known from the requests alone: no two of one name are alike, and
none is a reserved word, since a reserved word never stands without a number and none ends in a
digit.

Nothing keeps the variables of two names apart. A name that goes on with the number of another one
is given out as it is, whether or not that number has been reached; this is the one way in which a
variable comes to be given out twice (`Clash`).
-/

namespace Introspect.Naming.Locals

/-! ## Numbered names -/

/-- The number that a name starts from. -/
def firstNumber (name : String) : Nat := if isReserved name then 1 else 0

/-- The number behind a name; the first of all does not show. -/
def numeral (n : Nat) : String := if n = 0 then "" else toString n

theorem spelled_eq (name : String) (n : Nat) : spelled name n = name ++ numeral n := by
  unfold spelled numeral
  split
  · exact String.append_empty.symm
  · rfl

/-- No reserved word ends in a digit. -/
theorem not_isDigit_of_isReserved {name : String} (h : isReserved name = true) {c : Char}
    (hc : name.toList.getLast? = some c) : c.isDigit = false := by
  have hwords : ∀ w ∈ keywords ++ ambient, w.toList.getLast?.all (fun c => !c.isDigit) = true := by
    decide
  have hmem : name ∈ keywords ++ ambient := by
    simpa [isReserved] using h
  have hlast := hwords name hmem
  rw [hc] at hlast
  simpa using hlast

theorem isReserved_spelled {name : String} {n : Nat} (h : firstNumber name ≤ n) :
    isReserved (spelled name n) = false := by
  rw [Bool.eq_false_iff]
  intro hreserved
  unfold spelled at hreserved
  split at hreserved
  · next hn =>
      have hfirst : firstNumber name = 1 := if_pos hreserved
      omega
  · have hdigits : (toString n).toList ≠ [] := by
      rw [show toString n = n.repr from rfl, Nat.toList_repr]
      exact List.ne_nil_of_length_pos Nat.length_toDigits_pos
    have hlast : (name ++ toString n).toList.getLast? =
      some ((toString n).toList.getLast hdigits) := by
      rw [String.toList_append, List.getLast?_append, List.getLast?_eq_some_getLast hdigits,
        Option.some_or]
    have hdigit : ((toString n).toList.getLast hdigits).isDigit = true := by
      refine Nat.isDigit_of_mem_toDigits (b := 10) (n := n) (by decide) (by decide) ?_
      rw [← Nat.toList_repr]
      exact List.getLast_mem hdigits
    rw [not_isDigit_of_isReserved hreserved hlast] at hdigit
    cases hdigit

/-- Numbered names that are spelled alike are one name and one number, or one of the names goes on
with digits of the other one's number. -/
theorem spelled_eq_cases {name name' : String} {m n : Nat} (h : spelled name m = spelled name' n) :
    (name = name' ∧ m = n) ∨
      (∃ d, d ≠ "" ∧ name' = name ++ d ∧ numeral m = d ++ numeral n) ∨
      ∃ d, d ≠ "" ∧ name = name' ++ d ∧ numeral n = d ++ numeral m := by
  have hlist := congrArg String.toList h
  rw [spelled_eq, spelled_eq, String.toList_append, String.toList_append] at hlist
  have hback : ∀ {s t : String} {cs : List Char}, s.toList = t.toList ++ cs →
      s = t ++ String.ofList cs := by
    intro s t cs hs
    rw [← String.toList_inj, String.toList_append, String.toList_ofList, hs]
  by_cases hname : name = name'
  · subst hname
    exact .inl ⟨rfl, spelled_inj h⟩
  rcases List.append_eq_append_iff.mp hlist with ⟨d, hlong, hrest⟩ | ⟨d, hlong, hrest⟩
  · refine .inr (.inl ⟨String.ofList d, fun hd => hname ?_, hback hlong, ?_⟩)
    · rw [hback hlong, hd, String.append_empty]
    · rw [← String.toList_inj, String.toList_append, String.toList_ofList, hrest]
  · refine .inr (.inr ⟨String.ofList d, fun hd => hname ?_, hback hlong, ?_⟩)
    · rw [hback hlong, hd, String.append_empty]
    · rw [← String.toList_inj, String.toList_append, String.toList_ofList, hrest]

theorem nextNumber_alloc_ne (l : Locals) {name other : String} (h : other ≠ name) :
    (l.alloc name).2.nextNumber other = l.nextNumber other := by
  have hgiven : (l.alloc name).2.given = (name, l.nextNumber name) :: l.given := rfl
  rw [nextNumber, nextNumber, hgiven, lookup_cons_eq_ite, if_neg h]

/-! ## Requests -/

/-- What is asked for: a variable, or that of a parameter. -/
inductive Request
  | alloc (name : String)
  | register (index : Nat) (name : String)
deriving Repr, DecidableEq

/-- The name that is asked for. -/
def Request.name : Request → String
  | .alloc name | .register _ name => name

/-- The name that is given out, and the names that are taken then. -/
def answer (l : Locals) : Request → String × Locals
  | .alloc name => l.alloc name
  | .register index name => l.register index name

/-- Requests made one after another, each with its variable. -/
def answerAll (l : Locals) : List Request → List (Request × String) × Locals
  | [] => ([], l)
  | x :: rest =>
      let (v, l) := l.answer x
      let (log, l) := answerAll l rest
      ((x, v) :: log, l)

/-- What a request gives to the parameter at a position, if it is for that. -/
def given? (index : Nat) : Request × String → Option String
  | (.register i _, v) => if i = index then some v else none
  | (.alloc _, _) => none

/-- What the parameter at a position was given last. -/
def latest? (index : Nat) (log : List (Request × String)) : Option String :=
  log.reverse.findSome? (given? index)

/-- The names asked for. -/
def asked (log : List (Request × String)) : List String := log.map (·.1.name)

/-- A name has come to a number: it was asked for often enough. -/
def Reaches (names : List String) (name : String) (n : Nat) : Prop :=
  firstNumber name ≤ n ∧ n < firstNumber name + names.count name

theorem asked_answerAll (requests : List Request) : ∀ l : Locals,
    asked (l.answerAll requests).1 = requests.map Request.name := by
  induction requests with
  | nil => intro l; rfl
  | cons x rest ih => intro l; exact congrArg (x.name :: ·) (ih _)

section
variable {l : Locals} {x : Request} {log : List (Request × String)}

theorem given_answer (l : Locals) (x : Request) :
    (l.answer x).2.given = (x.name, l.nextNumber x.name) :: l.given := by
  cases x <;> rfl

theorem answer_fst (l : Locals) (x : Request) :
    (l.answer x).1 = spelled x.name (l.nextNumber x.name) := by
  cases x <;> rfl

theorem nextNumber_answer (l : Locals) (x : Request) (name : String) :
    (l.answer x).2.nextNumber name = l.nextNumber name + [x.name].count name := by
  have hsame : (l.answer x).2.nextNumber name = (l.alloc x.name).2.nextNumber name := by
    cases x <;> rfl
  rw [hsame]
  by_cases h : name = x.name
  · subst h
    rw [nextNumber_alloc, List.count_singleton_self]
  · rw [nextNumber_alloc_ne l h, List.count_eq_zero_of_not_mem (by simpa using h), Nat.add_zero]

theorem param?_answer (l : Locals) (x : Request) (index : Nat) :
    (l.answer x).2.param? index = (given? index (x, (l.answer x).1)).or (l.param? index) := by
  cases x with
  | alloc name => rfl
  | register i name =>
      show ((i, (l.alloc name).1) :: l.params).lookup index = _
      rw [lookup_cons_eq_ite, given?]
      by_cases h : i = index
      · rw [if_pos h, if_pos h.symm]
        rfl
      · rw [if_neg h, if_neg (Ne.symm h)]
        rfl

/-! ## What is remembered -/

/-- What is recorded of the requests so far: under each name, as many numbers as it was asked
for. -/
structure Remembers (log : List (Request × String)) (l : Locals) : Prop where
  /-- The variables given out. -/
  spelled : l.given.reverse.map (fun (name, n) => Locals.spelled name n) = log.map Prod.snd
  next : ∀ name, l.nextNumber name = firstNumber name + (asked log).count name
  mem_given : ∀ name n, (name, n) ∈ l.given ↔ firstNumber name ≤ n ∧ n < l.nextNumber name
  nodup : l.given.Nodup
  /-- The parameters have what they were given last. -/
  params : ∀ index, l.param? index = latest? index log

namespace Remembers

theorem empty : Remembers [] {} where
  spelled := rfl
  next _ := rfl
  mem_given name n := by
    have hnext : ({} : Locals).nextNumber name = firstNumber name := rfl
    rw [hnext]
    exact iff_of_false List.not_mem_nil fun h => Nat.not_lt.mpr h.1 h.2
  nodup := List.nodup_nil
  params _ := rfl

/-- One more request keeps the record. -/
theorem answer (h : Remembers log l) (x : Request) :
    Remembers (log ++ [(x, (l.answer x).1)]) (l.answer x).2 where
  spelled := by
    rw [given_answer, List.reverse_cons, List.map_append, h.spelled, List.map_append, answer_fst]
    rfl
  next name := by
    have hasked : asked (log ++ [(x, (l.answer x).1)]) = asked log ++ [x.name] := List.map_append
    rw [nextNumber_answer, h.next, hasked, List.count_append, Nat.add_assoc]
  mem_given name n := by
    have hfirst : firstNumber name ≤ l.nextNumber name := by
      rw [h.next]
      exact Nat.le_add_right _ _
    rw [given_answer, List.mem_cons, h.mem_given, nextNumber_answer, Prod.mk.injEq]
    by_cases hname : name = x.name
    · subst hname
      rw [List.count_singleton_self]
      simp only [true_and]
      omega
    · rw [List.count_eq_zero_of_not_mem (by simpa using hname)]
      simp [hname]
  nodup := by
    rw [given_answer, List.nodup_cons, h.mem_given]
    exact ⟨fun hmem => Nat.lt_irrefl _ hmem.2, h.nodup⟩
  params index := by
    rw [param?_answer, latest?, List.reverse_append, h.params]
    show _ = List.findSome? _ ((x, (l.answer x).1) :: log.reverse)
    rw [List.findSome?_cons]
    cases given? index (x, (l.answer x).1) <;> rfl

/-- So does every sequence of requests. -/
theorem answerAll (rest : List Request) : ∀ {log : List (Request × String)} {l : Locals},
    Remembers log l → Remembers (log ++ (l.answerAll rest).1) (l.answerAll rest).2 := by
  induction rest with
  | nil =>
      intro log l h
      rw [show (l.answerAll []).1 = [] from rfl, List.append_nil]
      exact h
  | cons x rest ih =>
      intro log l h
      have hrest := ih (h.answer x)
      rw [List.append_assoc] at hrest
      exact hrest

theorem mem_given_iff (h : Remembers log l) {name : String} {n : Nat} :
    (name, n) ∈ l.given.reverse ↔ Reaches (asked log) name n := by
  rw [List.mem_reverse, h.mem_given, h.next]
  rfl

/-- The variables are the names with the numbers they have come to. -/
theorem exists_of_mem (h : Remembers log l) {v : String} (hv : v ∈ log.map Prod.snd) :
    ∃ name n, Reaches (asked log) name n ∧ v = Locals.spelled name n := by
  rw [← h.spelled, List.mem_map] at hv
  obtain ⟨⟨name, n⟩, hmem, rfl⟩ := hv
  exact ⟨name, n, h.mem_given_iff.mp hmem, rfl⟩

end Remembers

end

/-! ## Variables given out twice -/

/-- One name goes on with leading digits of a number that another one has come to, and has itself
come to the rest of that number. -/
def Clash (names : List String) : Prop :=
  ∃ name d m n, d ≠ "" ∧ numeral m = d ++ numeral n ∧ Reaches names name m ∧
    Reaches names (name ++ d) n

theorem Remembers.nodup_iff {log : List (Request × String)} {l : Locals} (h : Remembers log l) :
    (log.map Prod.snd).Nodup ↔ ¬ Clash (asked log) := by
  rw [← h.spelled, List.nodup_map_iff_inj_on (List.nodup_reverse.mpr h.nodup)]
  constructor
  · rintro hinj ⟨name, d, m, n, hd, hdigits, hm, hn⟩
    have heq := hinj (name, m) (h.mem_given_iff.mpr hm) (name ++ d, n) (h.mem_given_iff.mpr hn) (by
      show Locals.spelled name m = Locals.spelled (name ++ d) n
      rw [spelled_eq, spelled_eq, hdigits, String.append_assoc])
    have hlonger := congrArg (fun p : String × Nat => p.1.toList.length) heq
    simp only [String.toList_append, List.length_append, Nat.left_eq_add, List.length_eq_zero_iff]
      at hlonger
    exact hd (String.toList_inj.mp hlonger)
  · rintro hclash ⟨name, m⟩ hm ⟨name', n⟩ hn heq
    rw [h.mem_given_iff] at hm hn
    rcases spelled_eq_cases heq with ⟨rfl, rfl⟩ | ⟨d, hd, rfl, hdigits⟩ | ⟨d, hd, rfl, hdigits⟩
    · rfl
    · exact absurd ⟨name, d, m, n, hd, hdigits, hm, hn⟩ hclash
    · exact absurd ⟨name', d, n, m, hd, hdigits, hn, hm⟩ hclash

/-- No variable is a reserved word, and each parameter has the variable it was given last. A
variable is given out twice just when two of the names clash. -/
theorem answerAll_variables (requests : List Request) :
    let log := (answerAll {} requests).1
    (∀ v ∈ log.map Prod.snd, isReserved v = false) ∧
    (∀ index, (answerAll {} requests).2.param? index = latest? index log) ∧
    ((log.map Prod.snd).Nodup ↔ ¬ Clash (requests.map Request.name)) := by
  intro log
  have hremembers : Remembers log (answerAll {} requests).2 :=
    Remembers.empty.answerAll requests
  refine ⟨fun v hv => ?_, hremembers.params, ?_⟩
  · obtain ⟨name, n, hreached, rfl⟩ := hremembers.exists_of_mem hv
    exact isReserved_spelled hreached.1
  · rw [hremembers.nodup_iff, asked_answerAll]

/-- Two parameters, and a variable named like the first one: it is numbered into the second. -/
theorem not_nodup_variables :
    ¬ ((answerAll {} [.register 0 "iv", .register 1 "iv1", .alloc "iv"]).1.map Prod.snd).Nodup := by
  decide

end Introspect.Naming.Locals

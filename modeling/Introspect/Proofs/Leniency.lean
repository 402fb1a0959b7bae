import Introspect.Proofs.RoundTrip
import Introspect.Proofs.Schema
import Mathlib.Logic.Relation

/-!
# Edits of documents

A document may be written in more ways than it is printed: with the members of an object in another
order, without those that hold their default, with `null` for those that are absent, and with
members no reader knows. None of these edits changes what is read, wherever in the document it is
made, and so no sequence of them does.
-/

namespace Introspect.Document

open Json (column)
open Relation (ReflTransGen)

/-- One edit of a value of some kind that leaves its meaning alone. -/
inductive Edit : Kind → Json → Json → Prop
  | reorder {r : Record} {ms ms' : List (String × Json)} (h : ms.Perm ms') :
      Edit (.record r) (.object ms) (.object ms')
  /-- A member that holds its default is left out. -/
  | leaveOut {r : Record} {name : String} {k : Kind} {j : Json}
      {before after : List (String × Json)}
      (hf : r.fields.lookup name = some { presence := .default j, kind := k }) :
      Edit (.record r) (.object (before ++ (name, j) :: after)) (.object (before ++ after))
  /-- An absent member is written as `null`. -/
  | null {r : Record} {name : String} {k : Kind} {ms : List (String × Json)}
      (hf : r.fields.lookup name = some (.optional k)) (habsent : ∀ m ∈ ms, m.1 ≠ name) :
      Edit (.record r) (.object ms) (.object ((name, .null) :: ms))
  /-- A member of a name that is not known is added. -/
  | add {r : Record} {name : String} {j : Json} {ms : List (String × Json)}
      (hf : r.fields.lookup name = none) :
      Edit (.record r) (.object ms) (.object ((name, j) :: ms))
  /-- What stands in a member is edited. -/
  | member {r : Record} {name : String} {f : Field} {j j' : Json}
      {before after : List (String × Json)} (hf : r.fields.lookup name = some f)
      (h : Edit f.kind j j') :
      Edit (.record r) (.object (before ++ (name, j) :: after))
        (.object (before ++ (name, j') :: after))
  /-- A symbol is edited as the record of its kind. -/
  | symbol {k : SymbolKind} {ms : List (String × Json)} {j : Json}
      (hkind : ms.lookup "kind" = some (.text k.name))
      (h : Edit (.record (.symbol k)) (.object ms) j) : Edit .symbol (.object ms) j
  | item {k : Kind} {j j' : Json} {before after : List Json} (h : Edit k j j') :
      Edit (.list k) (.list (before ++ j :: after)) (.list (before ++ j' :: after))

theorem Edit.ne_null {k : Kind} {j j' : Json} (h : Edit k j j') : j ≠ .null ∧ j' ≠ .null := by
  induction h with
  | reorder | leaveOut | null | add | member | item => exact ⟨nofun, nofun⟩
  | symbol hkind h ih => exact ih

section
variable {r : Record} {name : String} {f : Field} {j j' : Json}
  {ms ms' before after : List (String × Json)}

/-- A member whose name occurs once is alone under it. -/
theorem column_place {o : Option Json}
    (ho : column name (before ++ (name, j) :: after) = o.toList) :
    o = some j ∧ column name (before ++ after) = [] := by
  rw [Json.column_append, Json.column_cons_self] at ho
  rw [Json.column_append, List.append_eq_nil_iff]
  have hlength := congrArg List.length ho
  have hle : o.toList.length ≤ 1 := Option.length_toList_le
  rw [List.length_append, List.length_cons] at hlength
  have hbefore : column name before = [] := List.length_eq_zero_iff.mp (by omega)
  have hafter : column name after = [] := List.length_eq_zero_iff.mp (by omega)
  rw [hbefore, hafter] at ho
  refine ⟨?_, hbefore, hafter⟩
  simpa using (congrArg List.head? ho).symm

theorem column_place_ne {other : String} (h : other ≠ name) :
    column other (before ++ (name, j) :: after) = column other (before ++ after) := by
  rw [Json.column_append, Json.column_cons_ne h.symm, Json.column_append]

theorem agree_reorder (h : ms.Perm ms') : r.Agree ms ms' := by
  intro name f hf o ho
  refine ⟨o, ?_, .same o⟩
  have hperm : (column name ms).Perm (column name ms') := Json.column_perm h
  rw [ho] at hperm
  cases o with
  | none => exact List.nil_perm.mp hperm
  | some j => exact (List.singleton_perm.mp hperm).symm

theorem agree_leaveOut {k : Kind}
    (hf : r.fields.lookup name = some { presence := .default j, kind := k }) :
    r.Agree (before ++ (name, j) :: after) (before ++ after) := by
  intro other f hother o ho
  by_cases h : other = name
  · subst h
    obtain ⟨rfl, hcolumn⟩ := column_place ho
    rw [hf] at hother
    cases hother
    exact ⟨none, hcolumn, .leftOut rfl⟩
  · rw [column_place_ne h] at ho
    exact ⟨o, ho, .same o⟩

theorem agree_null {k : Kind} (hf : r.fields.lookup name = some (.optional k))
    (habsent : ∀ m ∈ ms, m.1 ≠ name) : r.Agree ms ((name, .null) :: ms) := by
  intro other f hother o ho
  by_cases h : other = name
  · subst h
    rw [hf] at hother
    cases hother
    rw [Json.column_eq_nil habsent] at ho
    have hnone : o = none := Option.toList_eq_nil_iff.mp ho.symm
    subst hnone
    refine ⟨some .null, ?_, .null rfl⟩
    rw [Json.column_cons_self, Json.column_eq_nil habsent]
    rfl
  · rw [← Json.column_cons_ne (Ne.symm h)] at ho
    exact ⟨o, ho, .same o⟩

theorem agree_add (hf : r.fields.lookup name = none) : r.Agree ms ((name, j) :: ms) := by
  intro other f hother o ho
  have h : name ≠ other := by
    rintro rfl
    rw [hf] at hother
    cases hother
  rw [← Json.column_cons_ne h] at ho
  exact ⟨o, ho, .same o⟩

theorem agree_member (hf : r.fields.lookup name = some f) (hj : j ≠ .null) (hj' : j' ≠ .null)
    (h : f.kind.Keeps j j') :
    r.Agree (before ++ (name, j) :: after) (before ++ (name, j') :: after) := by
  intro other f' hother o ho
  by_cases hname : other = name
  · subst hname
    obtain ⟨rfl, hcolumn⟩ := column_place ho
    rw [hf] at hother
    cases hother
    refine ⟨some j', ?_, .inside hj hj' h⟩
    rw [Json.column_append, List.append_eq_nil_iff] at hcolumn
    rw [Json.column_append, Json.column_cons_self, hcolumn.1, hcolumn.2]
    rfl
  · rw [column_place_ne hname, ← column_place_ne hname] at ho
    exact ⟨o, ho, .same o⟩

end

/-- An edit keeps what is read. -/
theorem Edit.keeps {k : Kind} {j j' : Json} (h : Edit k j j') : k.Keeps j j' := by
  induction h with
  | reorder h => exact (agree_reorder h).keeps
  | leaveOut hf => exact (agree_leaveOut hf).keeps
  | null hf habsent => exact (agree_null hf habsent).keeps
  | add hf => exact (agree_add hf).keeps
  | member hf h ih => exact (agree_member hf h.ne_null.1 h.ne_null.2 ih).keeps
  | symbol hkind h ih => exact ih _ rfl hkind
  | item h ih => exact ⟨_, _, _, _, rfl, rfl, ih⟩

/-- So do any number of edits. -/
theorem kept_of_edits {j j' : Json}
    (h : ReflTransGen (Edit (.record .document)) j j') : Kept Namespace.ofTagged? j j' := by
  induction h with
  | refl => exact fun _ hx => hx
  | tail _ hedit ih => exact fun x hx => hedit.keeps x (ih x hx)

/-- A record stays an object. -/
theorem Edit.exists_object {r : Record} {j j' : Json} (h : Edit (.record r) j j') :
    ∃ ms, j' = .object ms := by
  cases h with
  | reorder | leaveOut | null | add | member => exact ⟨_, rfl⟩

/-- Edits of what stands in a member are edits of the object. -/
theorem edits_member {r : Record} {name : String} {f : Field} {j j' : Json}
    {before after : List (String × Json)} (hf : r.fields.lookup name = some f)
    (h : ReflTransGen (Edit f.kind) j j') :
    ReflTransGen (Edit (.record r)) (.object (before ++ (name, j) :: after))
      (.object (before ++ (name, j') :: after)) := by
  induction h with
  | refl => exact .refl
  | tail _ hedit ih => exact ih.tail (.member hf hedit)

theorem edits_item {k : Kind} {j j' : Json} {before after : List Json}
    (h : ReflTransGen (Edit k) j j') :
    ReflTransGen (Edit (.list k)) (.list (before ++ j :: after))
      (.list (before ++ j' :: after)) := by
  induction h with
  | refl => exact .refl
  | tail _ hedit ih => exact ih.tail (.item hedit)

end Introspect.Document

namespace Introspect

open Document (Edit)
open Relation (ReflTransGen)

/-- A document edited in these ways is read as the namespace it was written for, whatever text it is
put down in. -/
theorem Namespace.ofText_of_edits {ns : Namespace} {j : Json} (hfits : ns.Fits)
    (hvalid : ns.validate = .ok ns) (hedits : ReflTransGen (Edit (.record .document)) ns.toJson j)
    (hdepth : j.depth < Json.nestingLimit) :
    (∀ text : String, Json.scan text.toList = (j.scanned, false) → ofText text = .ok ns) ∧
      (j.Exact → ofText j.pretty = .ok ns) := by
  have hobject : ∃ ms, j = .object ms := by
    rcases hedits.cases_tail with rfl | ⟨_, _, hlast⟩
    · exact ⟨_, rfl⟩
    · exact hlast.exists_object
  obtain ⟨ms, rfl⟩ := hobject
  have hread : ofTagged? (.object ms) = some ns :=
    Document.kept_of_edits hedits ns (ofTagged?_toJson hfits)
  have htext : ∀ text : String, Json.scan text.toList = ((Json.object ms).scanned, false) →
      ofText text = .ok ns := fun text hscan => by
    rw [ofText, parse_of_ofTagged? hread hdepth hscan]
    exact hvalid
  exact ⟨htext, fun hexact => htext _ (Json.scan_pretty hexact)⟩

/-- One callback that takes and returns nothing. -/
def quietNamespace : Namespace :=
  { name := "Demo", version := "1.0", infos := [.callback { name := "Done" }] }

/-- The document of `quietNamespace` with a prefix of `null` and a member of its own. Its callback
is written without arguments and result, and with its kind at the end. -/
def quietDocument : Json :=
  .object
    [("comment", .list [.text "by hand", .null]), ("c_prefix", .null),
      ("namespace", .text "Demo"), ("version", .text "1.0"),
      ("infos", .list [.object
        [("name", .text "Done"), ("return_transfer", .text "nothing"), ("deprecated", .bool false),
          ("kind", .text "callback")]])]

theorem Document.edits_quietDocument :
    ReflTransGen (Edit (.record .document)) quietNamespace.toJson quietDocument := by
  have hcallback : ReflTransGen (Edit .symbol) (Info.callback { name := "Done" }).toJson
      (.object [("name", .text "Done"), ("return_transfer", .text "nothing"),
        ("deprecated", .bool false), ("kind", .text "callback")]) := by
    refine .head (.symbol rfl (@Edit.leaveOut (.symbol .callback) "args" _ _ [_, _] _ rfl)) ?_
    refine .head (.symbol rfl (@Edit.leaveOut (.symbol .callback) "return_type" _ _
      [_, _] _ rfl)) ?_
    exact .single (.symbol rfl (.reorder (List.perm_append_singleton _ _).symm))
  have hinfos : ReflTransGen (Edit (.record .document)) quietNamespace.toJson _ :=
    @edits_member .document "infos" (.items .symbol) _ _ [_, _] [] rfl
      (@edits_item .symbol _ _ [] [] hcallback)
  refine .tail (.tail hinfos (@Edit.null .document "c_prefix" _ _ rfl ?_)) (.add rfl)
  decide

theorem Namespace.ofText_quietDocument : ofText quietDocument.pretty = .ok quietNamespace := by
  refine (ofText_of_edits ?_ rfl Document.edits_quietDocument ?_).2 ?_
  · simp [quietNamespace, Fits, Info.Fits, Callback.Fits, NativeType.void, NativeType.scalar,
      NativeType.Fits, Shape.Fits]
  · decide
  · simp [quietDocument, Json.Exact, Json.ExactMembers, Json.ExactItems]

end Introspect

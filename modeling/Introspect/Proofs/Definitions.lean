import Introspect.Proofs.Completion

/-!
# Types and their definitions

A file that names a type of its own namespace has to define it. Names and definitions are decided
apart: a reference is spelled by its kind wherever a value of its type is passed, and a symbol is
defined when the walk comes to it. The two agree on the spelling, and the walk comes to every
symbol. Where it leaves one out, a struct that only serves another type, the file has a remark
instead of a definition, and nothing else in the file defines a type of that name.
-/

namespace Introspect.Binding

open Source (Block File Step strip)

/-! ## What items define -/

/-- The type that is written for a symbol. -/
def Info.host? : Info → Option String
  | .container _ c => some c.name
  | .enum e => some (Naming.enumType e.name)
  | .flags e => some (Naming.flagsType e.name)
  | .function _ | .callback _ | .constant _ => none

/-- The type that an item defines. -/
def Item.host? : Item → Option String
  | .container _ c _ => some c.name
  | .enumeration e isFlags _ => some (Enumeration.form isFlags e.name).host
  | .function .. | .blackFunction _ | .callback .. | .ignored _ | .constant _ => none

/-- How the definition of a type opens: around a pointer, or around an integer. -/
def definitions (host : String) : List String :=
  ("pub struct " ++ host ++ " \x7b") ::
    ["i32", "u32"].map fun repr => "pub struct " ++ host ++ "(pub " ++ repr ++ ");"

/-- The text of an item defines the type. -/
def Item.Defines (e : Env) (item : Item) (host : String) : Prop :=
  ∃ steps, item.steps? e = some steps ∧
    ∃ text ∈ definitions host, .line text ∈ steps ∨ .opening text ∈ steps

/-- A line of the file defines the type. -/
def FileDefines (file : File) (host : String) : Prop :=
  ∃ b ∈ file.blocks, ∃ text ∈ definitions host, strip text ∈ b.lines

/-- A struct without methods that is named after a type, as its private or its class part. -/
def Info.Serves (s : Scope) : Info → Prop
  | .container kind c => kind = .struct ∧ c.methods = [] ∧
      ∃ owner, (s.space.kindOf? owner).isSome ∧
        (c.name = owner ++ "Private" ∨ c.name = owner ++ "Class")
  | _ => False

theorem stripSuffix?_eq_some_iff {suffix name owner : String} :
    stripSuffix? suffix name = some owner ↔ name = owner ++ suffix := by
  unfold stripSuffix?
  rw [← String.toList_inj, String.toList_append]
  constructor
  · intro h
    split at h
    · next hsuffix =>
        obtain ⟨rest, hrest⟩ := List.isSuffixOf_iff_suffix.mp hsuffix
        cases h
        rw [String.toList_ofList, ← String.length_toList, ← String.length_toList, ← hrest,
          List.length_append, Nat.add_sub_cancel, List.take_left]
    · cases h
  · intro h
    rw [if_pos (List.isSuffixOf_iff_suffix.mpr ⟨_, h.symm⟩), ← String.length_toList,
      ← String.length_toList, h, List.length_append, Nat.add_sub_cancel, List.take_left,
      String.ofList_toList]

/-- The structs that are left out are those that serve another type. -/
theorem isSome_ignoredReason?_iff {s : Scope} {kind : ContainerKind} {c : Introspect.Container} :
    (ignoredReason? s c kind).isSome ↔ Info.Serves s (.container kind c) := by
  have hpart : ∀ suffix what : String, (do
      let owner ← stripSuffix? suffix c.name
      let k ← s.space.kindOf? owner
      return what ++ " struct " ++ c.name ++ ", type of " ++ owner ++ " is " ++ k.name).isSome ↔
        ∃ owner, (s.space.kindOf? owner).isSome ∧ c.name = owner ++ suffix := by
    intro suffix what
    simp only [Option.isSome_iff_exists, Option.bind_eq_bind, Option.bind_eq_some_iff,
      stripSuffix?_eq_some_iff, Option.pure_def, Option.some.injEq]
    constructor
    · rintro ⟨_, owner, hname, k, hk, -⟩
      exact ⟨owner, ⟨k, hk⟩, hname⟩
    · rintro ⟨owner, ⟨k, hk⟩, hname⟩
      exact ⟨_, owner, hname, k, hk, rfl⟩
  unfold ignoredReason? Info.Serves
  split
  · next h =>
      rw [Bool.and_eq_true, decide_eq_true_iff, List.isEmpty_iff] at h
      simp only [List.findSome?_isSome_iff, List.mem_cons, List.not_mem_nil, or_false,
        exists_eq_or_imp, exists_eq_left, hpart, h, true_and, and_or_left, exists_or]
  · next h =>
      rw [Bool.and_eq_true, decide_eq_true_iff, List.isEmpty_iff] at h
      exact ⟨nofun, fun hs => absurd ⟨hs.1, hs.2.1⟩ h⟩

/-- A reference of the symbol's own kind is spelled like the symbol. -/
theorem typeName_eq_of_kind {s : Scope} {r : Reference} {info : Info} {host : String}
    (hname : info.name = r.name) (hkind : info.referenceKind = some r.kind)
    (hhost : Info.host? info = some host) (hlocal : s.foreignHome? r = none) :
    s.typeName r = host := by
  have hspelled : s.typeName r = s.localName r := by rw [Scope.typeName, hlocal]
  obtain ⟨kind, name, home⟩ := r
  have hsame : kind ≠ .unresolved → s.kind ⟨kind, name, home⟩ = kind := by
    intro hopen
    rw [Scope.kind, decide_eq_false hopen]
    rfl
  rw [hspelled, Scope.localName]
  cases info with
  | container k c =>
      cases hhost
      cases k <;> cases hkind <;> (rw [hsame (by decide)]; exact hname.symm)
  | enum e | flags e =>
      cases hhost
      cases hkind
      rw [hsame (by decide), ← hname]
      rfl
  | function f | callback c | constant c => cases hhost

/-- Every type that a reference can name is written for its symbol. -/
theorem exists_host_of_kind {info : Info} {kind : ReferenceKind}
    (hkind : info.referenceKind = some kind) (hcallback : kind ≠ .callback) :
    ∃ host, Info.host? info = some host := by
  cases info with
  | container k c => exact ⟨_, rfl⟩
  | enum e | flags e => exact ⟨_, rfl⟩
  | callback c =>
      cases hkind
      exact absurd rfl hcallback
  | function f | constant c => cases hkind

/-! ## What is defined -/

section
variable {e : Env} {info : Info} {index : Nat} {n : Counters} {host : String}

theorem host_of_functionItem {s : Scope} {f : Function} {m : Nat}
    {container : Option (ContainerKind × Introspect.Container)} :
    (functionItem s f index m container n).1.host? = none := by
  unfold functionItem
  dsimp only
  split <;> rfl

/-- The walk defines the type of a symbol, unless the symbol serves another type. -/
theorem exists_item_of_host (hhost : Info.host? info = some host)
    (hserves : ¬ Info.Serves e.scope info) :
    ∃ item ∈ (infoItems e index info n).1, item.host? = some host := by
  unfold infoItems
  cases info with
  | container k c =>
      have hnone : ignoredReason? e.scope c k = none :=
        Option.not_isSome_iff_eq_none.mp fun h => hserves (isSome_ignoredReason?_iff.mp h)
      dsimp only
      rw [hnone]
      exact ⟨_, List.mem_cons_self, hhost⟩
  | enum en | flags en => exact ⟨_, List.mem_singleton_self _, hhost⟩
  | function f | callback c | constant c => cases hhost

/-- Nothing else is defined. -/
theorem host_of_leaves {item : Item} (hitem : Leaves e index info item)
    (hhost : item.host? = some host) :
    Info.host? info = some host ∧ ¬ Info.Serves e.scope info := by
  cases hitem with
  | container getType hnone =>
      refine ⟨hhost, ?_⟩
      rw [← isSome_ignoredReason?_iff, hnone]
      exact Bool.false_ne_true
  | enum en getType | flags en getType => exact ⟨hhost, id⟩
  | function | method =>
      rw [host_of_functionItem] at hhost
      cases hhost
  | callback | ignored | constant => cases hhost

/-- A struct that serves another type leaves a remark. -/
theorem ignored_of_serves (hserves : Info.Serves e.scope info) :
    ∃ reason, .ignored reason ∈ (infoItems e index info n).1 := by
  cases info with
  | container k c =>
      obtain ⟨reason, hreason⟩ := Option.isSome_iff_exists.mp
        (isSome_ignoredReason?_iff.mpr hserves)
      refine ⟨reason, ?_⟩
      unfold infoItems
      dsimp only
      rw [hreason]
      exact List.mem_singleton_self _
  | function f | callback c | enum en | flags en | constant c => cases hserves

end

/-- No type of an enumeration or of flags is called as a struct that serves another type. -/
theorem host_ne_of_serves {s : Scope} {info other : Info} {host : String}
    (hserves : Info.Serves s info) (hhost : Info.host? info = some host)
    (hother : Info.host? other = some host) : other.name = info.name := by
  cases info with
  | container k c =>
      cases hhost
      obtain ⟨-, -, owner, -, hname⟩ := hserves
      have hend : ∀ {suffix : List Char}, suffix <:+ c.name.toList →
          suffix <:+ "Private".toList ∨ "Private".toList <:+ suffix ∨
            suffix <:+ "Class".toList ∨ "Class".toList <:+ suffix := by
        intro suffix h
        have hpart : ∀ {part : String}, c.name = owner ++ part →
            suffix <:+ part.toList ∨ part.toList <:+ suffix := by
          intro part hpart
          refine List.suffix_or_suffix_of_suffix h ?_
          rw [hpart, String.toList_append]
          exact List.suffix_append _ _
        rcases hname with hname | hname
        · exact (hpart hname).elim .inl (.inr ∘ .inl)
        · exact .inr (.inr (hpart hname))
      cases other with
      | container k' c' => exact Option.some.inj hother
      | enum en =>
          have hsuffix : "Enum".toList <:+ c.name.toList := by
            rw [← Option.some.inj hother, Naming.enumType, String.toList_append]
            exact List.suffix_append _ _
          exact absurd (hend hsuffix) (by decide)
      | flags en =>
          have hsuffix : "Flags".toList <:+ c.name.toList := by
            rw [← Option.some.inj hother, Naming.flagsType]
            split
            · next h => exact List.isSuffixOf_iff_suffix.mp h
            · rw [String.toList_append]
              exact List.suffix_append _ _
          exact absurd (hend hsuffix) (by decide)
      | function f | callback cb | constant cn => cases hother
  | function f | callback c | enum en | flags en | constant c => cases hserves

/-! ## Where definitions stand -/

/-- A line keeps its place when only plain lines stand before it. -/
theorem strip_mem_ofSteps {before after : List Step} {text : String} {st : Step}
    (hbefore : ∀ st ∈ before, ∃ text, st = .line text)
    (hst : st = .line text ∨ st = .opening text) :
    strip text ∈ (Block.ofSteps (before ++ st :: after)).lines := by
  have hindent : ∀ (steps : List Step) (b : Block), (∀ st ∈ steps, ∃ text, st = .line text) →
      (steps.foldl Block.apply b).indent = b.indent := by
    intro steps
    induction steps with
    | nil => intro b _; rfl
    | cons st rest ih =>
        intro b h
        rw [List.forall_mem_cons] at h
        obtain ⟨⟨text, rfl⟩, hrest⟩ := h
        exact ih _ hrest
  have hline : ((before.foldl Block.apply {}).apply st).lines =
      (before.foldl Block.apply {}).lines ++ [strip text] := by
    have hzero : (before.foldl Block.apply {}).indent = 0 := hindent before {} hbefore
    rcases hst with rfl | rfl <;> simp only [Block.apply, Block.line, hzero, Block.indented_zero]
  obtain ⟨ks, -, hafter⟩ := Block.lines_foldl after ((before.foldl Block.apply {}).apply st)
  rw [Block.ofSteps, List.foldl_append, List.foldl_cons, hafter, hline]
  simp

/-- The steps of an item that defines a type open the definition after plain lines. -/
theorem exists_definition_of_host {e : Env} {item : Item} {host : String}
    (h : item.host? = some host) :
    ∃ before st after, item.steps? e = some (before ++ st :: after) ∧
      (∀ st ∈ before, ∃ text, st = .line text) ∧
        ∃ text ∈ definitions host, st = .line text ∨ st = .opening text := by
  have hlines : ∀ (title derive : String) (deprecated : Bool),
      ∀ st ∈ [Step.line title] ++ deprecation deprecated ++ [Step.line derive],
        ∃ text, st = .line text := by
    intro title derive deprecated
    cases deprecated <;> simp [deprecation]
  cases item with
  | container k c getType =>
      cases h
      have hsteps : ∃ title derive after, Container.steps e.scope c k getType =
          [.line title] ++ deprecation c.deprecated ++ [.line derive] ++
            .opening ("pub struct " ++ c.name ++ " \x7b") :: after := by
        unfold Container.steps
        simp only [List.append_assoc]
        exact ⟨_, _, _, rfl⟩
      obtain ⟨title, derive, after, hsteps⟩ := hsteps
      exact ⟨_, _, after, congrArg some hsteps, hlines title derive _, _, List.mem_cons_self,
        .inr rfl⟩
  | enumeration en isFlags getType =>
      cases h
      have hrepr : (Enumeration.form isFlags en.name).repr ∈ ["i32", "u32"] := by
        cases isFlags <;> simp [Enumeration.form]
      have hsteps : ∃ title derive after, Enumeration.steps en isFlags getType =
          [.line title] ++ deprecation en.deprecated ++ [.line derive] ++
            .line ("pub struct " ++ (Enumeration.form isFlags en.name).host ++ "(pub " ++
              (Enumeration.form isFlags en.name).repr ++ ");") :: after := by
        unfold Enumeration.steps
        simp only [List.append_assoc]
        exact ⟨_, _, _, rfl⟩
      obtain ⟨title, derive, after, hsteps⟩ := hsteps
      exact ⟨_, _, after, congrArg some hsteps, hlines title derive _, _,
        List.mem_cons_of_mem _ (List.mem_map_of_mem hrepr), .inl rfl⟩
  | function f site | blackFunction name | callback cb kind | ignored reason | constant c => cases h

/-- Let no two symbols of a namespace have one name. Then every reference of the kind of a symbol is
spelled like a type that the file defines, unless the symbol serves another type. In place of such a
symbol the file has a remark, and nothing in it defines a type of that name. -/
theorem fileDefines_typeName {s : Scope} {start : Counters} {g : Generated}
    (hnames : (s.space.infos.map Info.name).Nodup) (hg : generate? s start = some g)
    {info : Info} (hinfo : info ∈ s.space.infos) {r : Reference}
    (hlocal : s.foreignHome? r = none) (hname : info.name = r.name)
    (hkind : info.referenceKind = some r.kind) (hcallback : r.kind ≠ .callback) :
    (¬ Info.Serves s info → FileDefines g.file (s.typeName r)) ∧
    (Info.Serves s info →
      (∃ reason, Block.ofSteps [.line ("// ignore " ++ reason)] ∈ g.file.blocks) ∧
      ∀ item ∈ (itemsFrom (Env.of s) 0 start s.space.infos).1,
        item.host? ≠ some (s.typeName r)) := by
  obtain ⟨host, hhost⟩ := exists_host_of_kind hkind hcallback
  rw [typeName_eq_of_kind hname hkind hhost hlocal]
  obtain ⟨index, n, hsub⟩ := exists_infoItems_subset (e := Env.of s) 0 start hinfo
  constructor
  · intro hserves
    obtain ⟨item, hitem, hitemHost⟩ := exists_item_of_host (e := Env.of s) hhost hserves
    obtain ⟨before, st, after, hsteps, hbefore, text, htext, hst⟩ :=
      exists_definition_of_host (e := Env.of s) hitemHost
    exact ⟨_, ofSteps_mem_blocks hg (hsub hitem) hsteps (by simp), text, htext,
      strip_mem_ofSteps hbefore hst⟩
  · intro hserves
    constructor
    · obtain ⟨reason, hreason⟩ := ignored_of_serves (e := Env.of s) hserves
      exact ⟨reason, ofSteps_mem_blocks hg (hsub hreason) rfl (List.cons_ne_nil _ _)⟩
    · intro item hitem hitemHost
      obtain ⟨k, other, hother, hleaves⟩ := leaves_of_mem hitem
      obtain ⟨hotherHost, hnot⟩ := host_of_leaves hleaves hitemHost
      have hsame : other = info := List.inj_on_of_nodup_map hnames (List.mem_of_getElem? hother)
        hinfo (host_ne_of_serves hserves hhost hotherHost)
      exact hnot (hsame ▸ hserves)

/-- The struct of a widget's class, as a function takes it. -/
def widgetClass : Reference := { kind := .struct, name := "WidgetClass" }

/-- A function that takes the class structure of an object. -/
def classOf : Function :=
  { name := "class_of", symbol := "demo_class_of"
    args := [{ name := "klass"
               type := .plain
                 { tag := .interface, isPointer := true, reference := some widgetClass } }] }

/-- A namespace in which an object and its class structure are declared. -/
def widgets : Namespace :=
  { name := "Demo", version := "1.0"
    infos := [.container .object { name := "Widget" }, .container .struct { name := "WidgetClass" },
      .function classOf] }

theorem isSome_generate?_widgets : (generate? ⟨widgets, {}⟩ {}).isSome := by
  rw [generate?_isSome_iff]
  intro cb hcb
  simp [widgets] at hcb

theorem fileDefines_widget :
    ∃ g, generate? ⟨widgets, {}⟩ {} = some g ∧ FileDefines g.file "Widget" := by
  obtain ⟨g, hg⟩ := Option.isSome_iff_exists.mp isSome_generate?_widgets
  have hwidget : Info.container .object { name := "Widget" } ∈ widgets.infos := List.mem_cons_self
  have hdefined := (fileDefines_typeName (by decide) hg hwidget
    (r := { kind := .object, name := "Widget" }) rfl rfl rfl (by decide)).1
  exact ⟨g, hg, hdefined fun h => ContainerKind.noConfusion h.1⟩

theorem ofText_render_widgets : Namespace.ofText widgets.render = .ok widgets := by
  have hfits : widgets.Fits := by
    simp [widgets, classOf, Namespace.Fits, Info.Fits, Function.Fits, Argument.Fits,
      NativeType.Fits, Shape.Fits, NativeType.void, NativeType.scalar]
  have hfloat : ∀ i ∈ widgets.infos, i.FloatFree := by simp [widgets, Info.FloatFree]
  have hdepth : widgets.toJson.depth = 7 := rfl
  rw [Namespace.ofText, Namespace.parse_render hfits hfloat (by rw [hdepth]; decide)]
  rfl

/-- The class of widgets has no type in the file, and yet a function takes one. -/
theorem not_defines_widgetClass :
    let s : Scope := ⟨widgets, {}⟩
    let items := (itemsFrom (Env.of s) 0 {} widgets.infos).1
    (∃ text, Namespace.ofText text = .ok widgets) ∧ (widgets.infos.map Info.name).Nodup ∧
    (generate? s {}).isSome ∧
    (∃ site, .function classOf site ∈ items ∧
      (Call.of (Env.of s) classOf site).params = [⟨"klass", s.typeName widgetClass⟩]) ∧
    ∀ item ∈ items, ¬ item.Defines (Env.of s) (s.typeName widgetClass) := by
  refine ⟨⟨_, ofText_render_widgets⟩, by decide, isSome_generate?_widgets,
    ⟨⟨0, 2, 0, none⟩, by decide, by decide⟩, ?_⟩
  have hnone : ((itemsFrom (Env.of ⟨widgets, {}⟩) 0 {} widgets.infos).1.all fun item =>
      (item.steps? (Env.of ⟨widgets, {}⟩)).all fun steps => steps.all fun st =>
        !(definitions "WidgetClass").contains st.text) = true := by decide +kernel
  rintro item hitem ⟨steps, hsteps, text, htext, hst⟩
  have hall := List.all_eq_true.mp hnone item hitem
  rw [hsteps] at hall
  have hno : ∀ st ∈ steps, st.text ∉ definitions "WidgetClass" := by
    simpa using hall
  exact hst.elim (hno _ · htext) (hno _ · htext)

end Introspect.Binding

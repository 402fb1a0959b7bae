import Introspect.Proofs.Items
import Introspect.Proofs.Placeholders
import Introspect.Proofs.Provenance
import Mathlib.Data.List.Forall2

/-!
# Imports

No one computes what a file has to import. A name of another module carries the directive that asks
for the module, through every type, expression and signature it becomes a part of, until a line is
kept and the directives in it are taken out. So a file imports what its lines are written with, and
no directive is left in them. The front of every file asks for two modules of the host's library.
-/

namespace Introspect.Text

theorem trim_eq_self {s : String} (h : ∀ c ∈ s.toList, isBlank c = false) : trim s = s := by
  have hkept : ∀ {cs : List Char}, (∀ c ∈ cs, isBlank c = false) → cs.dropWhile isBlank = cs := by
    intro cs hcs
    cases cs with
    | nil => rfl
    | cons c rest =>
        exact List.dropWhile_cons_of_neg (by rw [hcs c List.mem_cons_self]; decide)
  rw [trim, hkept h, hkept fun c hc => h c (List.mem_reverse.mp hc), List.reverse_reverse,
    String.ofList_toList]

end Introspect.Text

namespace Introspect.Source

/-! ## Sorted lists -/

section
variable {x y : String} {l xs : List String}

theorem mem_insertSorted : y ∈ insertSorted x l ↔ y = x ∨ y ∈ l := by
  induction l with
  | nil => simp [insertSorted]
  | cons z rest ih =>
      rw [insertSorted]
      split
      · rw [List.mem_cons]
      split
      · next heq =>
          rw [heq, List.mem_cons]
          exact ⟨.inr, fun h => h.elim .inl id⟩
      · rw [List.mem_cons, List.mem_cons, ih]
        exact or_left_comm

theorem mem_foldl_insertSorted : ∀ {l : List String},
    y ∈ xs.foldl (fun s path => insertSorted path s) l ↔ y ∈ l ∨ y ∈ xs := by
  induction xs with
  | nil => intro l; simp
  | cons x rest ih =>
      intro l
      rw [List.foldl_cons, ih, mem_insertSorted, List.mem_cons, @or_comm (y = x), or_assoc]

theorem sorted_insertSorted (h : l.Pairwise (· < ·)) : (insertSorted x l).Pairwise (· < ·) := by
  induction l with
  | nil => exact List.pairwise_singleton _ _
  | cons z rest ih =>
      have hrest := List.pairwise_cons.mp h
      rw [insertSorted]
      split
      · next hlt =>
          refine List.pairwise_cons.mpr ⟨List.forall_mem_cons.mpr ⟨hlt, fun w hw => ?_⟩, h⟩
          exact String.lt_trans hlt (hrest.1 w hw)
      split
      · exact h
      · next hlt hne =>
          refine List.pairwise_cons.mpr ⟨fun w hw => ?_, ih hrest.2⟩
          rcases mem_insertSorted.mp hw with rfl | hw
          · exact Decidable.not_not.mp fun hnot => hne (String.le_antisymm hnot hlt)
          · exact hrest.1 w hw

theorem sorted_foldl_insertSorted : ∀ {l : List String}, l.Pairwise (· < ·) →
    (xs.foldl (fun s path => insertSorted path s) l).Pairwise (· < ·) := by
  induction xs with
  | nil => exact id
  | cons x rest ih => exact fun h => ih (sorted_insertSorted h)

end

/-! ## Imports of blocks and files -/

namespace Block

theorem imports_apply (b : Block) (st : Step) :
    (b.apply st).imports = (uses st.text).foldl (fun s path => insertSorted path s) b.imports := by
  cases st <;> rfl

/-- A block imports what its steps ask for. -/
theorem mem_imports_foldl {path : String} {steps : List Step} : ∀ {b : Block},
    path ∈ (steps.foldl apply b).imports ↔
      path ∈ b.imports ∨ ∃ st ∈ steps, path ∈ uses st.text := by
  induction steps with
  | nil => intro b; simp
  | cons st rest ih =>
      intro b
      rw [List.foldl_cons, ih, imports_apply, mem_foldl_insertSorted, List.exists_mem_cons_iff,
        or_assoc]

theorem mem_imports_ofSteps {path : String} {steps : List Step} :
    path ∈ (ofSteps steps).imports ↔ ∃ st ∈ steps, path ∈ uses st.text :=
  mem_imports_foldl.trans ⟨fun h => h.elim (fun hnil => by cases hnil) id, .inr⟩

end Block

namespace File

/-- A file imports what its blocks do. -/
theorem mem_imports_foldl_push {path : String} {bs : List Block} : ∀ {f : File},
    path ∈ (bs.foldl push f).imports ↔ path ∈ f.imports ∨ ∃ b ∈ bs, path ∈ b.imports := by
  induction bs with
  | nil => intro f; simp
  | cons b rest ih =>
      intro f
      rw [List.foldl_cons, ih, push, mem_foldl_insertSorted, List.exists_mem_cons_iff, or_assoc]

theorem sorted_foldl_push {bs : List Block} : ∀ {f : File}, f.imports.Pairwise (· < ·) →
    (bs.foldl push f).imports.Pairwise (· < ·) := by
  induction bs with
  | nil => exact id
  | cons b rest ih => exact fun h => ih (sorted_foldl_insertSorted h)

end File

/-! ## What woven texts ask for -/

theorem mem_uses_iff {path line : String} :
    path ∈ uses line ↔ ∃ asked, Part.directive (useOf asked) ∈ parts 0 line.toList ∧
      path = Text.trim (String.ofList asked) := by
  unfold uses
  rw [List.mem_filterMap]
  constructor
  · rintro ⟨p, hp, hpath⟩
    cases p with
    | char c => cases hpath
    | directive d =>
        obtain ⟨word, asked⟩ := d
        rw [Option.ite_none_right_eq_some] at hpath
        obtain ⟨rfl, hpath⟩ := hpath
        exact ⟨asked, hp, (Option.some.inj hpath).symm⟩
  · rintro ⟨asked, hmem, rfl⟩
    exact ⟨_, hmem, rfl⟩

/-- Every request is for a path without blanks. -/
def Unblank (U : String → String → Prop) : Prop :=
  ∀ name path, U name path → ∀ c ∈ path.toList, Text.isBlank c = false

theorem Unblank.no_break {U : String → String → Prop} (hU : Unblank U) :
    ∀ name path, U name path → '\n' ∉ path.toList := fun _ _ h hmem =>
  absurd (hU _ _ h _ hmem) (by decide)

namespace Woven

variable {strict : Prop} {U : String → String → Prop} {t path : String}

/-- What the text asks for stands in it behind a name that asks for it, and the name is kept. -/
theorem exists_asked (h : Woven strict U t) (hU : Unblank U) (hpath : path ∈ uses t) :
    ∃ name, U name path ∧ (name ++ "/*use:" ++ path ++ "*/").toList <:+: t.toList ∧
      name.toList <:+: (strip t).toList := by
  obtain ⟨asked, hmem, rfl⟩ := mem_uses_iff.mp hpath
  obtain ⟨name, path, hname, heq, hinside, hshown⟩ := h.exists_use hmem
  obtain rfl : asked = path.toList := congrArg Directive.path heq
  rw [String.ofList_toList, Text.trim_eq_self (hU _ _ hname), toList_strip]
  exact ⟨name, hname, hinside, hshown⟩

/-- A directive behind a name is found. -/
theorem mem_uses (h : Woven strict U t) (hU : Unblank U) {name : String} (hname : U name path)
    (hattached : Attached name.toList path.toList)
    (hinside : (name ++ "/*use:" ++ path ++ "*/").toList <:+: t.toList) : path ∈ uses t := by
  rw [toList_use] at hinside
  have hdirective : (useOf path.toList).spelled <:+: t.toList :=
    (List.suffix_append _ _).isInfix.trans hinside
  refine mem_uses_iff.mpr ⟨path.toList, ?_, ?_⟩
  · exact h.directive_mem hU.no_break hattached (hU.no_break _ _ hname) hdirective
  · rw [String.ofList_toList, Text.trim_eq_self (hU _ _ hname)]

/-- No request is left where the line is kept, however it is indented. -/
theorem opensWith_indented (h : Woven strict U t) (hU : Unblank U) (k : Nat) :
    OpensWith Otherwise (indented k (strip t)).toList := by
  have hkept : OpensWith Otherwise (strip t).toList := by
    rw [toList_strip]
    exact h.opensWith_stripped hU.no_break
  obtain ⟨n, hn⟩ := Block.toList_indented k (strip t)
  have hblank : Plain (List.replicate n ' ') := .of_no_slash fun hmem =>
    absurd (List.eq_of_mem_replicate hmem) (by decide)
  rw [hn]
  exact OpensWith.append (.of_plain hblank) hkept (apart_blanks n) fun _ => Otherwise.append

end Woven

/-- A line has no more of a character than the text it is left of. -/
theorem count_indented_strip_le {c : Char} (hc : c ≠ ' ') (k : Nat) (t : String) :
    (indented k (strip t)).toList.count c ≤ t.toList.count c := by
  obtain ⟨n, hindented⟩ := Block.toList_indented k (strip t)
  have hblanks : (List.replicate n ' ').count c = 0 :=
    List.count_eq_zero.mpr fun hmem => hc (List.eq_of_mem_replicate hmem)
  rw [hindented, toList_strip, List.count_append, hblanks, Nat.zero_add]
  exact (stripped_sublist _).count_le c

theorem not_asks_of_opensWith {cs : List Char} (h : OpensWith Otherwise cs) :
    ¬ "/*use:".toList <:+: cs := by
  rintro ⟨before, after, rfl⟩
  obtain ⟨c, hc, hne⟩ := h (['u', 's', 'e', ':'] ++ after) ⟨before, by simp⟩
  exact hne (Option.some.inj hc).symm

end Introspect.Source

namespace Introspect.Binding

open Source (Step Block File Plain Word)

/-! ## The steps of a file -/

/-- The groups of steps that a file is made of: its front, and those of its items. -/
def groups (s : Scope) (start : Counters) : List (List Step) :=
  let e := Env.of s
  let items := (itemsFrom e 0 start s.space.infos).1
  [contextSteps s, initSteps s (items.filterMap Item.wrapped?), destroyNotifySteps] ++
    items.filterMap (Item.steps? e)

/-- All steps of a file. -/
def fileSteps (s : Scope) (start : Counters) : List Step := (groups s start).flatten

theorem blocks_of_mapM {e : Env} {items : List Item} : ∀ {blocks : List (Item × Block)},
    (items.mapM fun item => do return (item, Block.ofSteps (← item.steps? e))) = some blocks →
      blocks.map Prod.snd = (items.filterMap (Item.steps? e)).map Block.ofSteps := by
  induction items with
  | nil =>
      intro blocks h
      cases h
      rfl
  | cons item rest ih =>
      intro blocks h
      rw [List.mapM_cons] at h
      obtain ⟨b, hb, h⟩ := Option.bind_eq_some_iff.mp h
      obtain ⟨bs, hbs, h⟩ := Option.bind_eq_some_iff.mp h
      obtain rfl := Option.some.inj h
      obtain ⟨steps, hsteps, hblock⟩ := Option.bind_eq_some_iff.mp hb
      obtain rfl := Option.some.inj hblock
      rw [List.filterMap_cons_some hsteps, List.map_cons, List.map_cons, ih hbs]

section
variable {s : Scope} {start : Counters} {g : Generated} {path line : String} {st : Step}

theorem file_of_generate (hg : generate? s start = some g) :
    g.file = ((groups s start).map Block.ofSteps).foldl File.push {} := by
  unfold generate? at hg
  obtain ⟨blocks, hblocks, hg⟩ := Option.bind_eq_some_iff.mp hg
  obtain rfl := Option.some.inj hg
  rw [groups, List.map_append, ← blocks_of_mapM hblocks]

theorem mem_imports (hg : generate? s start = some g) :
    path ∈ g.file.imports ↔ ∃ st ∈ fileSteps s start, path ∈ Source.uses st.text := by
  rw [file_of_generate hg, File.mem_imports_foldl_push]
  constructor
  · rintro (hnil | ⟨b, hb, hpath⟩)
    · cases hnil
    · obtain ⟨steps, hsteps, rfl⟩ := List.mem_map.mp hb
      obtain ⟨st, hst, hpath⟩ := Block.mem_imports_ofSteps.mp hpath
      exact ⟨st, List.mem_flatten.mpr ⟨steps, hsteps, hst⟩, hpath⟩
  · rintro ⟨st, hst, hpath⟩
    obtain ⟨steps, hsteps, hst⟩ := List.mem_flatten.mp hst
    exact .inr ⟨_, List.mem_map.mpr ⟨steps, hsteps, rfl⟩,
      Block.mem_imports_ofSteps.mpr ⟨st, hst, hpath⟩⟩

theorem sorted_imports (hg : generate? s start = some g) : g.file.imports.Pairwise (· < ·) := by
  rw [file_of_generate hg]
  exact File.sorted_foldl_push .nil

/-- The lines of all blocks of a file. -/
def body (f : File) : List String := f.blocks.flatMap (·.lines)

/-- The lines of the blocks are what is left of the steps. -/
theorem body_of_generate (hg : generate? s start = some g) :
    ∃ ks : List Nat, ks.length = (fileSteps s start).length ∧ body g.file =
      List.zipWith (fun k st => Source.indented k (Source.strip st.text)) ks
        (fileSteps s start) := by
  have hkept : ∀ bs : List Block,
      (bs.filter (!·.isEmpty)).flatMap (·.lines) = bs.flatMap (·.lines) := by
    intro bs
    induction bs with
    | nil => rfl
    | cons b bs ih =>
        rw [List.filter_cons, List.flatMap_cons, ← ih]
        cases hb : b.isEmpty with
        | true =>
            rw [List.isEmpty_iff.mp hb]
            rfl
        | false => rfl
  rw [body, file_of_generate hg, blocks_foldl_push, List.nil_append, hkept, fileSteps]
  induction groups s start with
  | nil => exact ⟨[], rfl, rfl⟩
  | cons steps rest ih =>
      obtain ⟨ks, hlen, hlines⟩ := Block.lines_foldl steps {}
      obtain ⟨ks', hlen', hrest⟩ := ih
      refine ⟨ks ++ ks', ?_, ?_⟩
      · rw [List.length_append, List.flatten_cons, List.length_append, hlen, hlen']
      · rw [List.map_cons, List.flatMap_cons, hrest, List.flatten_cons, List.zipWith_append hlen,
          Block.ofSteps, hlines]
        rfl

theorem body_getElem? (hg : generate? s start = some g) {i : Nat} :
    (body g.file)[i]? = some line → ∃ st, (fileSteps s start)[i]? = some st ∧
      ∃ k, line = Source.indented k (Source.strip st.text) := by
  obtain ⟨ks, -, hlines⟩ := body_of_generate hg
  rw [hlines, List.getElem?_zipWith]
  intro h
  split at h
  · next k st _ hst => exact ⟨st, hst, k, (Option.some.inj h).symm⟩
  · cases h

theorem exists_body_getElem? (hg : generate? s start = some g) {i : Nat}
    (hst : (fileSteps s start)[i]? = some st) :
    ∃ k, (body g.file)[i]? = some (Source.indented k (Source.strip st.text)) := by
  obtain ⟨ks, hlen, hlines⟩ := body_of_generate hg
  have hi := (List.getElem?_eq_some_iff.mp hst).1
  refine ⟨ks[i], ?_⟩
  rw [hlines, List.getElem?_zipWith, hst, List.getElem?_eq_getElem (hlen ▸ hi)]

/-- A line of the file is the header, empty, an import, or what is left of a step. -/
theorem line_cases (hg : generate? s start = some g) (hline : line ∈ g.file.lines) :
    line = Source.header ∨ line = "" ∨ (∃ path ∈ g.file.imports, line = "use " ++ path ++ ";") ∨
      ∃ st ∈ fileSteps s start, ∃ k, line = Source.indented k (Source.strip st.text) := by
  rcases List.mem_append.mp hline with hfront | hblock
  · rcases List.mem_append.mp hfront with hhead | himport
    · rcases List.mem_cons.mp hhead with rfl | hempty
      · exact .inl rfl
      · exact .inr (.inl (List.mem_singleton.mp hempty))
    · obtain ⟨path, hpath, rfl⟩ := List.mem_map.mp himport
      exact .inr (.inr (.inl ⟨path, hpath, rfl⟩))
  · obtain ⟨b, hb, hline⟩ := List.mem_flatMap.mp hblock
    rcases List.mem_cons.mp hline with rfl | hline
    · exact .inr (.inl rfl)
    · have hbody : line ∈ body g.file := List.mem_flatMap.mpr ⟨b, hb, hline⟩
      obtain ⟨i, hi⟩ := List.mem_iff_getElem?.mp hbody
      obtain ⟨st, hst, k, rfl⟩ := body_getElem? hg hi
      exact .inr (.inr (.inr ⟨st, List.mem_of_getElem? hst, k, rfl⟩))

theorem word_host {info : Info} {host : String} (hname : Word False info.name)
    (hhost : Info.host? info = some host) : Word False host := by
  cases info with
  | container k c =>
      cases hhost
      exact hname
  | enum en =>
      cases hhost
      exact Naming.word_enumType hname
  | flags en =>
      cases hhost
      exact Naming.word_flagsType hname
  | function f | callback cb | constant c => cases hhost

/-- The front of every file asks for two modules. -/
theorem asked_by_front (h : path ∈ ["std::ffi::c_void", "std::sync::Arc"]) :
    ∃ st ∈ fileSteps s start, path ∈ Source.uses st.text := by
  have hinit : initSteps s ((itemsFrom (Env.of s) 0 start s.space.infos).1.filterMap
    Item.wrapped?) ∈
      groups s start := List.mem_append_left _ (List.mem_cons_of_mem _ List.mem_cons_self)
  have hnotify : destroyNotifySteps ∈ groups s start := List.mem_append_left _
    (List.mem_cons_of_mem _ (List.mem_cons_of_mem _ List.mem_cons_self))
  simp only [List.mem_cons, List.not_mem_nil, or_false] at h
  rcases h with rfl | rfl
  · exact ⟨_, List.mem_flatten.mpr ⟨_, hnotify, List.mem_cons_self⟩, by decide +kernel⟩
  · exact ⟨_, List.mem_flatten.mpr ⟨_, hinit, List.mem_cons_of_mem _ List.mem_cons_self⟩,
      by decide +kernel⟩

/-- All lines of a file are woven from the words of the namespace. -/
theorem wovenSteps_fileSteps {U : String → String → Prop}
    (hpointer : U "*mut c_void" "std::ffi::c_void")
    (hrepository : U "Arc<dyn gi::Repository>" "std::sync::Arc") (h : s.Worded False U)
    (htexts : ∀ t ∈ texts s.space, Plain t.toList) (start : Counters) :
    WovenSteps False U (fileSteps s start) := by
  have hname : Word False s.space.name := h.names _ (by simp [Namespace.names])
  have hwrapped : ∀ name ∈ (itemsFrom (Env.of s) 0 start s.space.infos).1.filterMap Item.wrapped?,
      Word False name := by
    intro name hmem
    obtain ⟨item, hitem, hwrap⟩ := List.mem_filterMap.mp hmem
    obtain ⟨k, info, hinfo, hleaves⟩ := leaves_of_mem hitem
    have hhost : item.host? = some name := by
      unfold Item.wrapped? at hwrap
      split at hwrap
      · cases hwrap
        rfl
      · cases hwrap
    exact word_host (h.word_name (List.mem_of_getElem? hinfo) Info.name_mem_names)
      (host_of_leaves hleaves hhost).1
  intro st hst
  obtain ⟨steps, hsteps, hst⟩ := List.mem_flatten.mp hst
  rcases List.mem_append.mp hsteps with hfront | hitems
  · simp only [List.mem_cons, List.not_mem_nil, or_false] at hfront
    rcases hfront with rfl | rfl | rfl
    · exact wovenSteps_contextSteps hname st hst
    · exact wovenSteps_initSteps hrepository hname hwrapped st hst
    · exact wovenSteps_destroyNotifySteps hpointer st hst
  · obtain ⟨item, hitem, hsteps⟩ := List.mem_filterMap.mp hitems
    exact wovenSteps_of_mem hpointer h htexts hitem hsteps st hst

end

end Introspect.Binding

namespace Introspect.Scope

open Binding
open Source (Plain Attached Unblank)

variable {s : Scope}

/-! ## Requests -/

/-- What the lines of a file ask for, and behind which names. -/
inductive Asks (s : Scope) : String → String → Prop
  | pointer : Asks s "*mut c_void" "std::ffi::c_void"
  | repository : Asks s "Arc<dyn gi::Repository>" "std::sync::Arc"
  | foreign {r : Reference} {home : String} (hr : r ∈ s.space.references)
      (hhome : s.foreignHome? r = some home) :
      Asks s (s.qualified home r) ("super::" ++ s.moduleOf home)

/-- Only names of foreign types ask for a module beside the file's own. -/
theorem Asks.exists_foreign {name m : String} (h : s.Asks name ("super::" ++ m)) :
    ∃ r ∈ s.space.references, ∃ home, s.foreignHome? r = some home ∧ s.moduleOf home = m ∧
      name = s.qualified home r := by
  generalize hpath : "super::" ++ m = path at h
  have hstart : "super::".toList <+: path.toList := by
    rw [← hpath, String.toList_append]
    exact List.prefix_append _ _
  cases h with
  | pointer | repository => exact absurd hstart (by decide)
  | @foreign r home hr hhome => exact ⟨r, hr, home, hhome,
      ((String.append_right_inj _).mp hpath).symm, rfl⟩

section
variable (hplain : ∀ t ∈ s.space.names ++ s.space.symbols ++ texts s.space, Plain t.toList)
  (hhomes : ∀ n ∈ s.space.homes ++ s.config.deps, Versioned n)

include hhomes in
theorem unblank_asks : Unblank s.Asks := by
  have hfixed : ∀ {text : String}, text.toList.all (!Text.isBlank ·) = true →
      ∀ c ∈ text.toList, Text.isBlank c = false := fun h c hc =>
    (Bool.not_eq_true' _).mp (List.all_eq_true.mp h c hc)
  intro name path h
  cases h with
  | pointer => exact hfixed (by decide)
  | repository => exact hfixed (by decide)
  | foreign hr hhome =>
      have hmodule := versioned_moduleOf (hhomes _ (dependency_mem hr hhome))
      intro c hc
      rw [String.toList_append, List.mem_append] at hc
      rcases hc with hc | hc
      · exact hfixed (by decide) c hc
      · exact (Text.inner_of_isVersionChar (List.all_eq_true.mp hmodule c hc)).1

include hplain hhomes in
/-- Behind each name stands a directive that the scan takes out. -/
theorem attached_of_asks {name path : String} (h : s.Asks name path) :
    Attached name.toList path.toList := by
  cases h with
  | pointer => exact Source.attached_fixed rfl
  | repository => exact Source.attached_fixed rfl
  | @foreign r home hr hhome =>
      have hcomment := uncommented_of_versioned (hhomes _ (dependency_mem hr hhome))
      refine attached_qualified (hplain _ ?_) hcomment
      obtain ⟨info, hinfo, hr⟩ := List.mem_flatMap.mp hr
      refine List.mem_append_left _ (List.mem_append_left _ (List.mem_append_right _ ?_))
      exact List.mem_flatMap.mpr
        ⟨info, hinfo, List.mem_append_right _ (List.mem_map.mpr ⟨r, hr, rfl⟩)⟩

include hplain hhomes in
theorem worded_of_versioned : s.Worded False s.Asks where
  names n hn := word_of_plain (hplain n (List.mem_append_left _ (List.mem_append_left _ hn)))
  symbols n hn := word_of_plain (hplain n (List.mem_append_left _ (List.mem_append_right _ hn)))
  homes _ hr _ hhome :=
    ⟨uncommented_of_versioned (hhomes _ (dependency_mem hr hhome)), .foreign hr hhome⟩

include hplain hhomes in
theorem wovenSteps_asks (start : Counters) : WovenSteps False s.Asks (fileSteps s start) :=
  wovenSteps_fileSteps .pointer .repository (worded_of_versioned hplain hhomes)
    (fun t ht => hplain t (List.mem_append_right _ ht)) start

end

end Introspect.Scope

namespace Introspect.Binding

open Listing (Follows)
open Source (Plain File Step Block Word Woven Attached)

variable {s : Scope} {start : Counters} {g : Generated}

/-- A line shows the name of a type that the module holds. -/
def Shows (s : Scope) (m line : String) : Prop :=
  ∃ r ∈ s.space.references, ∃ home, s.foreignHome? r = some home ∧ s.moduleOf home = m ∧
    (m ++ "::" ++ s.localName r).toList <:+: line.toList

/-- One line of the file is written with the name of a type from another namespace, and `m` is the
module of that namespace: the line shows such a name whatever the module is called, under every
listing of dependencies. (A line that has the name from elsewhere, as the value of a constant, keeps
it when the module is called differently.) -/
def NamesModule (s : Scope) (start : Counters) (m : String) : Prop :=
  ∃ home ∈ s.space.homes, s.moduleOf home = m ∧ ∃ i : Nat, ∀ l : Listing,
    ∃ g, generate? (s.listing l) start = some g ∧ ∃ line, (body g.file)[i]? = some line ∧
      Shows (s.listing l) ((s.listing l).moduleOf home) line

theorem mem_lines_of_body {f : File} {line : String} (h : line ∈ body f) : line ∈ f.lines := by
  obtain ⟨b, hb, hline⟩ := List.mem_flatMap.mp h
  exact List.mem_append_right _ (List.mem_flatMap.mpr ⟨b, hb, List.mem_cons_of_mem _ hline⟩)

/-! ## The steps under every listing -/

section
variable (hhomes : ∀ n ∈ s.space.homes, Versioned n) (start : Counters)
include hhomes

/-- The steps of a file follow the listing. -/
theorem stepsFollow_fileSteps : StepsFollow s fun l => fileSteps (s.listing l) start := by
  obtain ⟨e, he, hlisted⟩ := exists_env hhomes
  simp only [fileSteps, groups, List.flatten_append, hlisted, itemsFrom_listing,
    Scope.space_listing]
  refine .append (.fixed fun _ _ => rfl) (.flatten_filterMap fun item hitem => ?_)
  exact Item.stepsFollow_steps? hhomes he hitem

/-- The same place of a file holds a text that follows the listing. -/
theorem exists_text {own : Listing} {i : Nat} {st : Step}
    (hst : (fileSteps (s.listing own) start)[i]? = some st) :
    ∃ t, Follows s t ∧ t own = st.text ∧
      ∀ l, ∃ st, (fileSteps (s.listing l) start)[i]? = some st ∧ st.text = t l := by
  obtain ⟨ts, hts, heq⟩ := stepsFollow_fileSteps hhomes start
  have hplace : ∀ l, (fileSteps (s.listing l) start)[i]?.map (·.text) = ts[i]?.map (· l) :=
    fun l => by rw [← List.getElem?_map, congrFun heq l, List.getElem?_map]
  have hown := hplace own
  rw [hst] at hown
  obtain ⟨t, ht, htext⟩ := Option.map_eq_some_iff.mp hown.symm
  refine ⟨t, hts t (List.mem_of_getElem? ht), htext, fun l => ?_⟩
  have hl := hplace l
  rw [ht] at hl
  exact Option.map_eq_some_iff.mp hl

/-- Whether the bindings are written does not depend on the listing. -/
theorem isSome_generate?_listing (l l' : Listing) :
    (generate? (s.listing l) start).isSome = (generate? (s.listing l') start).isSome := by
  obtain ⟨e, he, hlisted⟩ := exists_env hhomes
  rw [Bool.eq_iff_iff]
  simp only [isSome_generate?_iff, hlisted, itemsFrom_listing, Scope.space_listing]
  refine forall₂_congr fun item hitem => ?_
  rcases Item.stepsFollow_steps? hhomes he hitem with hnone | ⟨steps, -, hsome⟩
  · rw [congrFun hnone l, congrFun hnone l']
  · rw [congrFun hsome l, congrFun hsome l']
    exact Iff.rfl

end

/-! ## What a text asks for, and what it shows -/

section
variable {t : Listing → String} {own l : Listing} {m home : String}
  (hplain : ∀ t ∈ s.space.names ++ s.space.symbols ++ texts s.space, Plain t.toList)
  (hhomes : ∀ n ∈ s.space.homes, Unversioned n) (hdeps : ∀ d ∈ s.config.deps, Versioned d)
  (hwoven : ∀ l, Woven False (s.listing l).Asks (t l)) (hfollows : Follows s t)

include hhomes in
theorem listed_of_homes (l : Listing) :
    ∀ n ∈ (s.listing l).space.homes ++ (s.listing l).config.deps, Versioned n :=
  List.forall_mem_append.mpr ⟨fun n hn => (hhomes n hn).versioned, l.versioned⟩

include hhomes hwoven in
/-- A text shows the name of a type for each module it asks for. -/
theorem shows_of_uses (h : "super::" ++ m ∈ Source.uses (t l)) :
    Shows (s.listing l) m (Source.strip (t l)) := by
  obtain ⟨name, hasks, -, hshown⟩ :=
    (hwoven l).exists_asked (Scope.unblank_asks (listed_of_homes hhomes l)) h
  obtain ⟨r, hr, home, hhome, rfl, rfl⟩ := hasks.exists_foreign
  exact ⟨r, hr, home, hhome, rfl, hshown⟩

include hplain hhomes hwoven in
/-- A text asks for the module of each type that it is written with. -/
theorem uses_of_typeName {r : Reference} (hr : r ∈ s.space.references)
    (hhome : s.foreignHome? r = some home)
    (h : ((s.listing l).typeName r).toList <:+: (t l).toList) :
    "super::" ++ (s.listing l).moduleOf home ∈ Source.uses (t l) := by
  have hlisted := listed_of_homes hhomes l
  have hasks : (s.listing l).Asks _ _ := .foreign (s := s.listing l) hr hhome
  rw [Scope.typeName_of_foreign (s := s.listing l) hhome] at h
  exact (hwoven l).mem_uses (Scope.unblank_asks hlisted) hasks
    (Scope.attached_of_asks (s := s.listing l) hplain hlisted hasks) h

include hplain hhomes hdeps hwoven hfollows in
/-- A module that a text asks for is that of a namespace whose module the text asks for under every
listing. -/
theorem exists_home_of_uses (hown : s.listing own = s)
    (h : "super::" ++ m ∈ Source.uses (t own)) :
    ∃ home ∈ s.space.homes, s.moduleOf home = m ∧
      ∀ l, "super::" ++ (s.listing l).moduleOf home ∈ Source.uses (t l) := by
  rcases hfollows.names_or_same fun home => s.moduleOf home = m with
    ⟨r, hr, home, hhome, hmodule, hin⟩ | hsame
  · refine ⟨home, Scope.mem_homes hr hhome, hmodule, fun l => ?_⟩
    exact uses_of_typeName hplain hhomes hwoven hr hhome (hin l)
  · -- Otherwise no listing changes the text, though it may call no module by this name any more.
    exfalso
    obtain ⟨l, hlong, hkept⟩ := Scope.exists_relisting
      (s.space.homes.filter fun home => s.moduleOf home = m)
      (fun home hmem => hhomes home (List.mem_of_mem_filter hmem)) hdeps (m.toList.count 'v' + 1)
    have hother : ∀ home, s.moduleOf home ≠ m → (s.listing l).moduleOf home = s.moduleOf home :=
      fun home hne => hkept home fun hmem => hne (of_decide_eq_true (List.mem_filter.mp hmem).2)
    have htext : t own = t l := hsame own l fun home _ hne => by rw [hown, hother home hne]
    rw [htext] at h
    obtain ⟨r, hr, home, hhome, hmodule, -⟩ := shows_of_uses hhomes hwoven h
    by_cases hm : s.moduleOf home = m
    · have hmem : home ∈ s.space.homes.filter fun home => s.moduleOf home = m :=
        List.mem_filter.mpr ⟨Scope.mem_homes hr hhome, decide_eq_true hm⟩
      have hle := hlong home hmem
      rw [hmodule] at hle
      omega
    · exact hm (hother home hm ▸ hmodule)

include hplain hhomes hdeps hwoven hfollows in
/-- A text that shows the name of a type from a namespace under every listing asks for its
module. -/
theorem uses_of_shows (hown : s.listing own = s) (hhome : home ∈ s.space.homes)
    (h : ∀ l, ∃ k, Shows (s.listing l) ((s.listing l).moduleOf home)
      (Source.indented k (Source.strip (t l)))) :
    "super::" ++ s.moduleOf home ∈ Source.uses (t own) := by
  rcases hfollows.names_or_same fun other => other = home with
    ⟨r, hr, other, hother, rfl, hin⟩ | hsame
  · have huses := uses_of_typeName hplain hhomes hwoven hr hother (hin own)
    rwa [hown] at huses
  · -- Otherwise no listing changes the text, though the module may get a longer name than it has.
    exfalso
    obtain ⟨l, hlong, hkept⟩ := Scope.exists_relisting [home]
      (fun other hmem => hhomes other (List.mem_singleton.mp hmem ▸ hhome)) hdeps
      ((t own).toList.count 'v' + 1)
    have htext : t own = t l := hsame own l fun other _ hne => by
      rw [hown, hkept other fun hmem => hne (List.mem_singleton.mp hmem)]
    obtain ⟨k, r, -, other, -, -, hin⟩ := h l
    have hshown := (hin.sublist.count_le 'v').trans (Source.count_indented_strip_le (by decide) k _)
    rw [← htext, String.toList_append, String.toList_append, List.append_assoc,
      List.count_append] at hshown
    have hle := hlong home List.mem_cons_self
    omega

end

/-! ## Exact imports -/

section
variable
  (hplain : ∀ t ∈ s.space.names ++ s.space.symbols ++ texts s.space, Plain t.toList)
  (hhomes : ∀ n ∈ s.space.homes, Unversioned n) (hdeps : ∀ d ∈ s.config.deps, Versioned d)
  (hg : generate? s start = some g)

include hhomes hplain in
theorem woven_listing (start : Counters) (l : Listing) :
    WovenSteps False (s.listing l).Asks (fileSteps (s.listing l) start) :=
  Scope.wovenSteps_asks (s := s.listing l) hplain (listed_of_homes hhomes l) start

include hplain hhomes hdeps hg in
/-- A module that a line names is imported. -/
theorem mem_imports_of_namesModule {m : String} (h : NamesModule s start m) :
    "super::" ++ m ∈ g.file.imports := by
  obtain ⟨own, hown⟩ := Scope.exists_own hdeps
  obtain ⟨home, hhome, rfl, i, h⟩ := h
  have hsteps : ∀ l, ∃ st, (fileSteps (s.listing l) start)[i]? = some st ∧ ∃ k,
      Shows (s.listing l) ((s.listing l).moduleOf home)
        (Source.indented k (Source.strip st.text)) := by
    intro l
    obtain ⟨g, hg, line, hline, hshown⟩ := h l
    obtain ⟨st, hst, k, rfl⟩ := body_getElem? hg hline
    exact ⟨st, hst, k, hshown⟩
  obtain ⟨st, hst, -⟩ := hsteps own
  obtain ⟨t, hfollows, htext, hplace⟩ :=
    exists_text (fun n hn => (hhomes n hn).versioned) start hst
  have htexts : ∀ l, Woven False (s.listing l).Asks (t l) ∧ ∃ k, Shows (s.listing l)
      ((s.listing l).moduleOf home) (Source.indented k (Source.strip (t l))) := by
    intro l
    obtain ⟨st, hst, hshown⟩ := hsteps l
    obtain ⟨st', hst', htext⟩ := hplace l
    obtain rfl := Option.some.inj (hst.symm.trans hst')
    rw [← htext]
    exact ⟨woven_listing hplain hhomes start l st (List.mem_of_getElem? hst), hshown⟩
  have huses := uses_of_shows hplain hhomes hdeps (fun l => (htexts l).1) hfollows hown hhome
    fun l => (htexts l).2
  rw [htext] at huses
  rw [hown] at hst
  exact (mem_imports hg).mpr ⟨st, List.mem_of_getElem? hst, huses⟩

include hplain hhomes hdeps hg in
/-- A module that is imported is named by a line. -/
theorem namesModule_of_mem_imports {m : String} (h : "super::" ++ m ∈ g.file.imports) :
    NamesModule s start m := by
  obtain ⟨own, hown⟩ := Scope.exists_own hdeps
  have hversioned : ∀ n ∈ s.space.homes, Versioned n := fun n hn => (hhomes n hn).versioned
  obtain ⟨st, hst, huses⟩ := (mem_imports hg).mp h
  obtain ⟨i, hst⟩ := List.mem_iff_getElem?.mp hst
  rw [← hown] at hst
  obtain ⟨t, hfollows, htext, hplace⟩ := exists_text hversioned start hst
  have htexts : ∀ l, Woven False (s.listing l).Asks (t l) := by
    intro l
    obtain ⟨st, hst, htext⟩ := hplace l
    exact htext ▸ woven_listing hplain hhomes start l st (List.mem_of_getElem? hst)
  rw [← htext] at huses
  obtain ⟨home, hhome, hmodule, hasked⟩ :=
    exists_home_of_uses hplain hhomes hdeps htexts hfollows hown huses
  refine ⟨home, hhome, hmodule, i, fun l => ?_⟩
  have hsome := isSome_generate?_listing hversioned start own l
  rw [hown, hg] at hsome
  obtain ⟨g, hg⟩ := Option.isSome_iff_exists.mp hsome.symm
  obtain ⟨st, hst, htext⟩ := hplace l
  obtain ⟨k, hline⟩ := exists_body_getElem? hg hst
  obtain ⟨r, hr, home, hhome, hmodule, hin⟩ := shows_of_uses hhomes htexts (hasked l)
  rw [← htext] at hin
  exact ⟨g, hg, _, hline, r, hr, home, hhome, hmodule,
    hin.trans (Block.toList_infix_indented k _)⟩

include hdeps hg in
theorem exists_line_of_namesModule {m : String} (h : NamesModule s start m) :
    ∃ line ∈ g.file.lines, Shows s m line := by
  obtain ⟨own, hown⟩ := Scope.exists_own hdeps
  obtain ⟨home, -, rfl, i, h⟩ := h
  obtain ⟨g', hg', line, hline, hshown⟩ := h own
  rw [hown] at hg' hshown
  obtain rfl := Option.some.inj (hg.symm.trans hg')
  exact ⟨line, mem_lines_of_body (List.mem_of_getElem? hline), hshown⟩

/-- The file imports exactly what its lines are written with: the two modules that the front of
every file asks for, and the module of each namespace that a line names a type from. Every module
that is named is shown by a line, and no directive is left in the lines. The names may be any that
open no comment; other namespaces are called by identifiers, and dependencies may be called after a
version. -/
theorem imports_exact
    (hplain : ∀ t ∈ s.space.names ++ s.space.symbols ++ texts s.space, Plain t.toList)
    (hhomes : ∀ n ∈ s.space.homes, Unversioned n) (hdeps : ∀ d ∈ s.config.deps, Versioned d)
    (hg : generate? s start = some g) :
    (∀ path, path ∈ g.file.imports ↔
      path = "std::ffi::c_void" ∨ path = "std::sync::Arc" ∨
        ∃ m, NamesModule s start m ∧ path = "super::" ++ m) ∧
    (∀ m, NamesModule s start m → ∃ line ∈ g.file.lines, Shows s m line) ∧
    g.file.imports.Pairwise (· < ·) ∧
    ∀ line ∈ g.file.lines, ¬ "/*use:".toList <:+: line.toList := by
  have hlisted : ∀ n ∈ s.space.homes ++ s.config.deps, Versioned n :=
    List.forall_mem_append.mpr ⟨fun n hn => (hhomes n hn).versioned, hdeps⟩
  have hunblank := Scope.unblank_asks hlisted
  have hwoven := Scope.wovenSteps_asks hplain hlisted start
  refine ⟨fun path => ?_, fun m => exists_line_of_namesModule hdeps hg, sorted_imports hg,
    fun line hline => ?_⟩
  · constructor
    · intro hpath
      obtain ⟨st, hst, huses⟩ := (mem_imports hg).mp hpath
      obtain ⟨name, hasks, -⟩ := (hwoven st hst).exists_asked hunblank huses
      cases hasks with
      | pointer => exact .inl rfl
      | repository => exact .inr (.inl rfl)
      | foreign hr hhome =>
          exact .inr (.inr ⟨_, namesModule_of_mem_imports hplain hhomes hdeps hg hpath, rfl⟩)
    · rintro (rfl | rfl | ⟨m, hnames, rfl⟩)
      · exact (mem_imports hg).mpr (asked_by_front List.mem_cons_self)
      · exact (mem_imports hg).mpr (asked_by_front (List.mem_cons_of_mem _ List.mem_cons_self))
      · exact mem_imports_of_namesModule hplain hhomes hdeps hg hnames
  · refine Source.not_asks_of_opensWith ?_
    rcases line_cases hg hline with rfl | rfl | ⟨path, hpath, rfl⟩ | ⟨st, hst, k, rfl⟩
    · exact .of_plain (by decide)
    · exact .of_plain (by decide)
    · obtain ⟨st, hst, hpath⟩ := (mem_imports hg).mp hpath
      obtain ⟨name, hasks, -⟩ := (hwoven st hst).exists_asked hunblank hpath
      have hattached := Scope.attached_of_asks hplain hlisted hasks
      have hword : Word False ("use " ++ path ++ ";") :=
        ((word_of_plain hattached.path_plain).behind rfl).link (Source.link rfl)
      exact .of_plain hword.plain
    · exact (hwoven st hst).opensWith_indented hunblank k

end

/-- A function that draws on a surface of another namespace. -/
theorem imports_drawn : ∃ g, generate? drawn {} = some g ∧ "super::cairo_1_0" ∈ g.file.imports ∧
    NamesModule drawn {} "cairo_1_0" ∧
    ∀ line ∈ g.file.lines, ¬ "/*use:".toList <:+: line.toList := by
  obtain ⟨g, hg⟩ := Option.isSome_iff_exists.mp isSome_generate?_drawn
  obtain ⟨himports, -, -, hlines⟩ := imports_exact (by decide) (by decide) (by decide) hg
  have hst : Step.opening "pub fn draw(on: cairo_1_0::Surface/*use:super::cairo_1_0*/) \x7b" ∈
      fileSteps drawn {} := by decide +kernel
  have hmem : "super::cairo_1_0" ∈ g.file.imports :=
    (mem_imports hg).mpr ⟨_, hst, by decide +kernel⟩
  refine ⟨g, hg, hmem, ?_, hlines⟩
  rcases (himports _).mp hmem with heq | heq | ⟨m, hnames, heq⟩
  · exact absurd heq (by decide)
  · exact absurd heq (by decide)
  · have hm : "cairo_1_0" = m := (String.append_right_inj "super::").mp heq
    exact hm ▸ hnames

end Introspect.Binding

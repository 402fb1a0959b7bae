import Introspect.Proofs.Settings
import Introspect.Proofs.Stops
import Mathlib.Data.List.Forall2

/-!
# Edits of the settings

Two settings leave something out: functions, and the runtime types of types. Nothing that is written
for a function, a callback or a constant looks at either, so a binding is the same under all of
them. Where the walk stops, and with which counters, is decided without the settings. So to leave
out one more function only replaces its block by a remark, and to leave out one more runtime type
only touches the block of its type, and that which registers the wrappers.
-/

namespace Introspect

/-- The scope under other settings on what is left out. -/
def Scope.leavingOut (s : Scope) (black noGetType : List String) : Scope :=
  { s with config := { s.config with black, noGetType } }

end Introspect

namespace Introspect.Binding

open Naming (Locals)
open Source (Step Block)

/-! ## What does not look at them -/

section
variable {s : Scope} {black noGetType : List String}

theorem Trampoline.of_leavingOut (cb : Introspect.Callback) :
    of (s.leavingOut black noGetType) cb = of s cb := by
  have hparams : paramsFrom (s.leavingOut black noGetType) 0 {} cb.args =
    paramsFrom s 0 {} cb.args :=
    paramsFrom_under fun config => { config with black, noGetType }
  simp only [of, hparams]
  rfl

theorem Trampoline.hostParams_leavingOut {skip : Nat} {ps : List (Argument × TrampolineParam)} :
    ∀ {i : Nat} {l : Locals},
      hostParams (s.leavingOut black noGetType) skip i l ps = hostParams s skip i l ps := by
  induction ps with
  | nil => intro i l; rfl
  | cons p rest ih =>
      intro i l
      simp only [hostParams, ih]
      rfl

theorem CallbackKind.classify_leavingOut (cb : Introspect.Callback) :
    classify (s.leavingOut black noGetType) cb = classify s cb := by
  simp only [classify, Trampoline.of_leavingOut, Trampoline.hostParams_leavingOut]
  rfl

theorem Callback.steps?_leavingOut (cb : Introspect.Callback) (kind : CallbackKind) :
    steps? (s.leavingOut black noGetType) cb kind = steps? s cb kind := by
  cases kind <;>
    simp only [steps?, ClosureBinding.of, Trampoline.of_leavingOut,
      Trampoline.hostParams_leavingOut]

/-- A callback is written or not whatever is left out. -/
theorem Callback.hasData_leavingOut (cb : Introspect.Callback) (kind : CallbackKind) :
    HasData (s.leavingOut black noGetType) cb kind ↔ HasData s cb kind := by
  rw [HasData, HasData, Mapped, Mapped, Trampoline.of_leavingOut]

end

/-- The same callbacks, under other settings on what is left out. -/
def Env.leavingOut (e : Env) (black noGetType : List String) : Env :=
  { e with scope := e.scope.leavingOut black noGetType }

/-- The same analysis, leaving out some functions and some runtime types. -/
def Analysis.leavingOut (an : Analysis) (black noGetType : List String) : Analysis :=
  { an with env := an.env.leavingOut black noGetType }

/-- The same call, leaving out some functions and some runtime types. -/
def Call.leavingOut (c : Call) (black noGetType : List String) : Call :=
  { c with analysis := c.analysis.leavingOut black noGetType }

theorem Env.of_leavingOut (s : Scope) (black noGetType : List String) :
    of (s.leavingOut black noGetType) = (of s).leavingOut black noGetType := by
  simp only [of, CallbackKind.classify_leavingOut, leavingOut]
  rfl

section
variable {e : Env} {f : Function} {site : Site} {black noGetType : List String}

theorem Analysis.of_leavingOut : of (e.leavingOut black noGetType) f site =
    ((of e f site).1.leavingOut black noGetType, (of e f site).2) :=
  of_under fun config => { config with black, noGetType }

theorem Part.of_leavingOut (an : Analysis) (i : Nat) (a : Argument) (l : Locals) :
    of (an.leavingOut black noGetType) i a l = of an i a l := by
  unfold of
  rfl

theorem Part.allFrom_leavingOut {an : Analysis} {args : List Argument} :
    ∀ {i : Nat} {l : Locals},
      allFrom (an.leavingOut black noGetType) i l args = allFrom an i l args := by
  induction args with
  | nil => intro i l; rfl
  | cons a rest ih =>
      intro i l
      simp only [allFrom, of_leavingOut, ih]

theorem Call.of_leavingOut :
    of (e.leavingOut black noGetType) f site = (of e f site).leavingOut black noGetType := by
  simp only [of, Analysis.of_leavingOut, Part.allFrom_leavingOut]
  rfl

/-- The text of a call is the same whatever is left out. -/
theorem functionBlock_leavingOut :
    functionBlock (e.leavingOut black noGetType) f site = functionBlock e f site := by
  rw [functionBlock, Call.of_leavingOut]
  rfl

end

/-! ## Sections of a file -/

/-- What a block of a file is for. -/
inductive Heading
  | context
  | init
  | destroyNotify
  | stop (st : Stop)
deriving Repr, DecidableEq

/-- The function that is written at a stop, as the settings call it. -/
def Stop.identity? : Stop → Option String
  | .function f _ _ owner => some (identity f (owner.map Prod.snd))
  | _ => none

/-- The type that is written at a stop, as the settings call it. -/
def Stop.typeName? : Stop → Option String
  | .container _ c => some c.name
  | .enumeration e _ => some e.name
  | _ => none

/-- The function under the heading, as the settings call it. -/
def Heading.identity? : Heading → Option String
  | .stop st => st.identity?
  | _ => none

/-- The type under the heading, as the settings call it. -/
def Heading.typeName? : Heading → Option String
  | .stop st => st.typeName?
  | _ => none

/-- The section of a stop. -/
def Stop.section (e : Env) (n : Counters) (st : Stop) : Heading × Block := (.stop st, st.block e n)

/-- The blocks of a file, each under its heading. -/
def sections (s : Scope) (start : Counters) : List (Heading × Block) :=
  [.context, .init, .destroyNotify].zip (front s start) ++
    (atStops (Stop.section (Env.of s)) start (stops s.space)).filter fun sec => !sec.2.isEmpty

theorem blocks_eq_sections {s : Scope} {start : Counters} {g : Generated}
    (hg : generate? s start = some g) : g.file.blocks = (sections s start).map Prod.snd := by
  rw [blocks_of_generate hg, sections, List.map_append]
  refine congrArg₂ _ rfl ?_
  have hblocks : atStops (Stop.block (Env.of s)) start (stops s.space) =
      (atStops (Stop.section (Env.of s)) start (stops s.space)).map Prod.snd := by
    rw [map_atStops]
    rfl
  rw [hblocks, List.filter_map]
  rfl

/-! ## One more function left out -/

section
variable {e : Env} {x : String} {black : List String}

theorem isBlack_iff {name : String} (hblack : ∀ y, y ∈ black ↔ y = x ∨ y ∈ e.scope.config.black) :
    (e.leavingOut black e.scope.config.noGetType).scope.config.isBlack name = true ↔
      name = x ∨ e.scope.config.isBlack name = true := by
  rw [Config.isBlack, Config.isBlack, List.contains_iff_mem, List.contains_iff_mem, ← hblack]
  rfl

theorem Stop.block_callback_leavingOut (cb : Introspect.Callback) (noGetType : List String)
    (n : Counters) : (Stop.callback cb).block (e.leavingOut black noGetType) n =
      (Stop.callback cb).block e n := by
  have hbinding : (e.leavingOut black noGetType).binding cb = e.binding cb := by
    rw [Env.binding, Env.leavingOut, CallbackKind.classify_leavingOut]
    rfl
  rw [Stop.block, Stop.item, Item.steps?, hbinding]
  exact congrArg (fun steps => Block.ofSteps (steps.getD [])) (Callback.steps?_leavingOut cb _)

theorem block_black (hblack : ∀ y, y ∈ black ↔ y = x ∨ y ∈ e.scope.config.black) (n : Counters)
    (st : Stop) : st.block (e.leavingOut black e.scope.config.noGetType) n =
      if st.identity? = some x then blackBlock x else st.block e n := by
  cases st with
  | function f index i owner =>
      rw [Stop.block_function, Stop.block_function, functionBlock_leavingOut, Stop.identity?]
      simp only [isBlack_iff hblack, Option.some.injEq]
      split
      · next h =>
          rcases h with rfl | h
          · rw [if_pos rfl]
          · split
            · next heq => rw [heq]
            · rfl
      · next h =>
          rw [not_or] at h
          rw [if_neg h.1, if_neg h.2]
  | callback cb =>
      rw [Stop.block_callback_leavingOut]
      rfl
  | container kind c | ignored reason | enumeration en isFlags | constant c => rfl

theorem wrapped_black (n : Counters) (st : Stop) :
    (st.item (e.leavingOut black e.scope.config.noGetType) n).wrapped? =
      (st.item e n).wrapped? := by
  have hfunction : ∀ (s : Scope) f index i owner,
      (functionItem s f index i owner n).1.wrapped? = none := by
    intro s f index i owner
    unfold functionItem
    dsimp only
    split <;> rfl
  cases st with
  | function f index i owner => rw [Stop.item, Stop.item, hfunction, hfunction]
  | callback cb | container kind c | ignored reason | enumeration en isFlags | constant c => rfl

/-- To leave out one more function replaces its blocks. -/
theorem sections_black {s : Scope} (hblack : ∀ y, y ∈ black ↔ y = x ∨ y ∈ s.config.black)
    (start : Counters) : sections (s.leavingOut black s.config.noGetType) start =
      (sections s start).map fun sec =>
        (sec.1, if sec.1.identity? = some x then blackBlock x else sec.2) := by
  have hwrapped :
      (atStops (Stop.item ((Env.of s).leavingOut black (Env.of s).scope.config.noGetType)) start
          (stops s.space)).filterMap Item.wrapped? =
        (atStops (Stop.item (Env.of s)) start (stops s.space)).filterMap Item.wrapped? := by
    rw [filterMap_atStops, filterMap_atStops (Stop.item (Env.of s)), atStops_congr wrapped_black]
  have hfront : front (s.leavingOut black s.config.noGetType) start = front s start := by
    rw [front, Env.of_leavingOut]
    exact congrArg (fun names => [_, Block.ofSteps (initSteps s names), _]) hwrapped
  have hstops : atStops (Stop.section (Env.of (s.leavingOut black s.config.noGetType))) start
      (stops s.space) = (atStops (Stop.section (Env.of s)) start (stops s.space)).map fun sec =>
        (sec.1, if sec.1.identity? = some x then blackBlock x else sec.2) := by
    rw [map_atStops, Env.of_leavingOut]
    refine atStops_congr (fun n st => ?_) _ _
    rw [Stop.section, show (Env.of s).leavingOut black s.config.noGetType =
      (Env.of s).leavingOut black (Env.of s).scope.config.noGetType from rfl, block_black hblack]
    rfl
  have hspace : (s.leavingOut black s.config.noGetType).space = s.space := rfl
  rw [sections, hfront, hspace, hstops, List.filter_map, sections, List.map_append]
  refine congrArg₂ _ rfl (congrArg _ (List.filter_congr fun sec hsec => ?_))
  obtain ⟨st, -, n, rfl⟩ := exists_of_mem_atStops _ _ hsec
  have hempty : (if st.identity? = some x then blackBlock x else st.block (Env.of s) n).isEmpty =
      (st.block (Env.of s) n).isEmpty := by
    split
    · next h =>
        have hcallback : ∀ cb, st ≠ .callback cb := by
          rintro cb rfl
          cases h
        rw [isEmpty_block hcallback]
        exact Block.isEmpty_ofSteps (List.cons_ne_nil _ _)
    · rfl
  exact congrArg not hempty

end

/-! ## One more runtime type left out -/

section
variable {e : Env} {t : String} {noGetType : List String}

theorem takeGetType_leavingOut (htypes : ∀ y, y ∈ noGetType ↔ y = t ∨ y ∈ e.scope.config.noGetType)
    {name : String} (hname : name ≠ t) (typeInit : Option String) (n : Counters) :
    takeGetType (e.leavingOut e.scope.config.black noGetType).scope name typeInit n =
      takeGetType e.scope name typeInit n := by
  have hskips : (e.leavingOut e.scope.config.black noGetType).scope.config.skipsGetType name =
      e.scope.config.skipsGetType name := by
    rw [Bool.eq_iff_iff, Config.skipsGetType, Config.skipsGetType, List.contains_iff_mem,
      List.contains_iff_mem]
    exact (htypes name).trans (or_iff_right hname)
  rw [takeGetType, takeGetType, hskips]

theorem block_typed (htypes : ∀ y, y ∈ noGetType ↔ y = t ∨ y ∈ e.scope.config.noGetType)
    {st : Stop} (hst : st.typeName? ≠ some t) (n : Counters) :
    st.block (e.leavingOut e.scope.config.black noGetType) n = st.block e n := by
  have hname : ∀ {name}, st.typeName? = some name → name ≠ t := by
    rintro name h rfl
    exact hst h
  cases st with
  | function f index i owner =>
      rw [Stop.block_function, Stop.block_function, functionBlock_leavingOut]
      rfl
  | callback cb => exact Stop.block_callback_leavingOut cb noGetType n
  | container kind c =>
      rw [Stop.block, Stop.item, takeGetType_leavingOut htypes (hname rfl)]
      rfl
  | enumeration en isFlags =>
      rw [Stop.block, Stop.item, takeGetType_leavingOut htypes (hname rfl)]
      rfl
  | ignored reason | constant c => rfl

theorem isEmpty_block_typed (n : Counters) (st : Stop) :
    (st.block (e.leavingOut e.scope.config.black noGetType) n).isEmpty =
    (st.block e n).isEmpty := by
  by_cases hcallback : ∃ cb, st = .callback cb
  · obtain ⟨cb, rfl⟩ := hcallback
    rw [Stop.block_callback_leavingOut]
  · have hnone : ∀ cb, st ≠ .callback cb := fun cb h => hcallback ⟨cb, h⟩
    rw [isEmpty_block hnone, isEmpty_block hnone]

end

theorem forall₂_atStops {β : Type} {R : β → β → Prop} {f g : Counters → Stop → β}
    (h : ∀ n st, R (f n st) (g n st)) (n : Counters) (sts : List Stop) :
    List.Forall₂ R (atStops f n sts) (atStops g n sts) := by
  induction sts generalizing n with
  | nil => exact .nil
  | cons st rest ih =>
      rw [atStops_cons, atStops_cons]
      exact .cons (h n st) (ih _)

/-- The same section of two files, if it is not one that starts the binding or writes a type `t`. -/
def SameBut (t : String) (old new : Heading × Block) : Prop :=
  new.1 = old.1 ∧ (old.1 ≠ .init → old.1.typeName? ≠ some t → new.2 = old.2)

/-- To leave out one more runtime type touches the start of the binding and the blocks of its
type. -/
theorem sections_typed {s : Scope} {t : String} {noGetType : List String}
    (htypes : ∀ y, y ∈ noGetType ↔ y = t ∨ y ∈ s.config.noGetType) (start : Counters) :
    List.Forall₂ (SameBut t) (sections s start)
      (sections (s.leavingOut s.config.black noGetType) start) := by
  have hfront : List.Forall₂ (SameBut t) ([.context, .init, .destroyNotify].zip (front s start))
      ([.context, .init, .destroyNotify].zip
        (front (s.leavingOut s.config.black noGetType) start)) :=
    .cons ⟨rfl, fun _ _ => rfl⟩ <| .cons ⟨rfl, fun h _ => absurd rfl h⟩ <|
      .cons ⟨rfl, fun _ _ => rfl⟩ .nil
  have hstops : List.Forall₂
      (fun old new => SameBut t old new ∧ new.2.isEmpty = old.2.isEmpty)
      (atStops (Stop.section (Env.of s)) start (stops s.space))
      (atStops (Stop.section ((Env.of s).leavingOut (Env.of s).scope.config.black noGetType)) start
        (stops s.space)) :=
    forall₂_atStops (fun n st =>
      ⟨⟨rfl, fun _ hst => block_typed htypes hst n⟩, isEmpty_block_typed n st⟩) _ _
  rw [sections, sections, Env.of_leavingOut]
  refine List.rel_append hfront (.imp (fun _ _ h => h.1) (List.rel_filter ?_ hstops))
  intro old new h
  dsimp only
  rw [h.2]

/-! ## Edits are local -/

/-- A block of one line, which is a comment. -/
def IsLineComment (b : Block) : Prop :=
  ∃ text : String, b.lines = ["//" ++ text] ∧ '\n' ∉ text.toList

theorem lines_blackBlock (x : String) :
    (blackBlock x).lines = ["// black function " ++ Source.strip x] := by
  have hsplit : ∀ cs, "// black function ".toList ++ cs =
      "// black function".toList ++ ' ' :: cs := by
    intro cs
    rw [show "// black function ".toList = "// black function".toList ++ [' '] by decide,
      List.append_assoc]
    rfl
  have hblank : '/' ∉ [' '] := by decide
  have hspace : Source.stripped (' ' :: x.toList) = ' ' :: Source.stripped x.toList :=
    Source.stripped_append_of_no_slash hblank
  rw [blackBlock, Block.lines_ofSteps_line, List.singleton_inj, ← String.toList_inj,
    Source.toList_strip, String.toList_append, String.toList_append, Source.toList_strip, hsplit,
    Source.stripped_append (by decide) (by simp), hspace, hsplit]

/-- The remark on a function that is left out is one comment, unless its name breaks the line. -/
theorem isLineComment_blackBlock {x : String} (h : '\n' ∉ x.toList) :
    IsLineComment (blackBlock x) := by
  refine ⟨" black function " ++ Source.strip x, ?_, ?_⟩
  · rw [lines_blackBlock, ← String.append_assoc]
    rfl
  · rw [String.toList_append, List.mem_append, not_or, Source.toList_strip]
    exact ⟨by decide, fun hx => h ((Source.stripped_sublist _).subset hx)⟩

/-- The binding of a namespace is written as well when more is left out, and with the same counters
behind it. -/
theorem generate?_leavingOut {s : Scope} {start : Counters} {g : Generated}
    (hg : generate? s start = some g) (black noGetType : List String) :
    ∃ g', generate? (s.leavingOut black noGetType) start = some g' ∧ g'.next = g.next ∧
      g'.file.blocks = (sections (s.leavingOut black noGetType) start).map Prod.snd := by
  have hsome : (generate? (s.leavingOut black noGetType) start).isSome := by
    rw [generate?_isSome_iff, Env.of_leavingOut]
    intro cb hcb kind hkind
    rw [Callback.hasData_leavingOut]
    exact generate?_isSome_iff.mp (Option.isSome_of_eq_some hg) cb hcb kind hkind
  obtain ⟨g', hg'⟩ := Option.isSome_iff_exists.mp hsome
  refine ⟨g', hg', ?_, blocks_eq_sections hg'⟩
  rw [next_of_generate? hg', next_of_generate? hg, walk_eq, walk_eq]
  rfl

/-- To leave out one more function, or one more runtime type, changes a file where it has to and
nowhere else. -/
structure Generated.EditsLocal (s : Scope) (start : Counters) (g : Generated) : Prop where
  /-- The blocks of the file, each under its heading. -/
  blocks : g.file.blocks = (sections s start).map Prod.snd
  /-- The function `x` gets a remark in place of its block. -/
  black : ∀ x black, (∀ y, y ∈ black ↔ y = x ∨ y ∈ s.config.black) →
    ∃ g', generate? (s.leavingOut black s.config.noGetType) start = some g' ∧ g'.next = g.next ∧
      g'.file.blocks = (sections (s.leavingOut black s.config.noGetType) start).map Prod.snd ∧
      sections (s.leavingOut black s.config.noGetType) start = (sections s start).map fun sec =>
        (sec.1, if sec.1.identity? = some x then blackBlock x else sec.2)
  /-- The remark is a comment with the name of the function. -/
  remark : ∀ x, (blackBlock x).lines = ["// black function " ++ Source.strip x] ∧
    ('\n' ∉ x.toList → IsLineComment (blackBlock x))
  /-- The type `t` is written without its runtime type, and maybe registered no more. -/
  noGetType : ∀ t noGetType, (∀ y, y ∈ noGetType ↔ y = t ∨ y ∈ s.config.noGetType) →
    ∃ g', generate? (s.leavingOut s.config.black noGetType) start = some g' ∧ g'.next = g.next ∧
      g'.file.blocks = (sections (s.leavingOut s.config.black noGetType) start).map Prod.snd ∧
      List.Forall₂ (SameBut t) (sections s start)
        (sections (s.leavingOut s.config.black noGetType) start)

/-- Where a namespace is written, what is left out can be edited locally. -/
theorem editsLocal_of_generate {s : Scope} {start : Counters} {g : Generated}
    (hg : generate? s start = some g) : g.EditsLocal s start where
  blocks := blocks_eq_sections hg
  black x black hblack := by
    obtain ⟨g', hg', hnext, hblocks⟩ := generate?_leavingOut hg black s.config.noGetType
    exact ⟨g', hg', hnext, hblocks, sections_black hblack start⟩
  remark x := ⟨lines_blackBlock x, isLineComment_blackBlock⟩
  noGetType t noGetType htypes := by
    obtain ⟨g', hg', hnext, hblocks⟩ := generate?_leavingOut hg s.config.black noGetType
    exact ⟨g', hg', hnext, hblocks, sections_typed htypes start⟩

/-- Every kind of symbol, after a run that left a method and a type out. -/
theorem editsLocal_sample :
    let s : Scope :=
      ⟨sampleNamespace, { black := ["Thing.turn \"\\\n\x01"], noGetType := ["Bits"] }⟩
    ∃ g, generate? s ⟨10, 3⟩ = some g ∧ g.EditsLocal s ⟨10, 3⟩ := by
  intro s
  obtain ⟨g, hg⟩ := Option.isSome_iff_exists.mp
    (isSome_generate?_of_nodup ⟨10, 3⟩ fun _ _ => eq_of_name_eq (s := s) (by decide))
  exact ⟨g, hg, editsLocal_of_generate hg⟩

/-- A function whose name breaks the line. -/
def halved : Namespace :=
  { name := "Demo", version := "1.0", infos := [.function { name := "f\ng", symbol := "demo_f" }] }

theorem ofText_render_halved : Namespace.ofText halved.render = .ok halved := by
  have hfits : halved.Fits := by
    simp [halved, Namespace.Fits, Info.Fits, Function.Fits, NativeType.Fits, Shape.Fits,
      NativeType.void, NativeType.scalar]
  have hfloat : ∀ i ∈ halved.infos, i.FloatFree := by simp [halved, Info.FloatFree]
  rw [Namespace.ofText, Namespace.parse_render hfits hfloat (by decide)]
  rfl

/-- The remark on such a function does not stay on one line. -/
theorem not_isLineComment_halved :
    let s : Scope := ⟨halved, {}⟩
    (∃ text, Namespace.ofText text = .ok halved) ∧ (generate? s {}).isSome ∧
    ∃ g heading b, generate? (s.leavingOut ["f\ng"] []) {} = some g ∧
      heading.identity? = some "f\ng" ∧ (heading, b) ∈ sections (s.leavingOut ["f\ng"] []) {} ∧
      b ∈ g.file.blocks ∧ ¬ IsLineComment b := by
  intro s
  have hsome : (generate? s {}).isSome :=
    isSome_generate?_of_nodup {} fun _ _ => eq_of_name_eq (s := s) (by decide)
  obtain ⟨g, hg⟩ := Option.isSome_iff_exists.mp hsome
  obtain ⟨g', hg', -, hblocks⟩ := generate?_leavingOut hg ["f\ng"] []
  let heading : Heading := .stop (.function { name := "f\ng", symbol := "demo_f" } 0 0 none)
  have hmem : (heading, blackBlock "f\ng") ∈ sections (s.leavingOut ["f\ng"] []) {} := by
    decide +kernel
  have hidentity : heading.identity? = some "f\ng" := by decide
  refine ⟨⟨_, ofText_render_halved⟩, hsome, g', heading, blackBlock "f\ng", hg', hidentity, hmem,
    ?_, ?_⟩
  · rw [hblocks]
    exact List.mem_map_of_mem hmem
  · rintro ⟨text, hlines, hbreak⟩
    rw [lines_blackBlock, List.singleton_inj] at hlines
    have hbroken : '\n' ∈ ("//" ++ text).toList := by
      rw [← hlines]
      decide +kernel
    rw [String.toList_append, List.mem_append] at hbroken
    exact hbreak (hbroken.resolve_left (by decide))

end Introspect.Binding

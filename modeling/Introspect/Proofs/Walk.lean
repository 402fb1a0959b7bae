import Introspect.Binding.Generate
import Introspect.Proofs.Lines
import Mathlib.Algebra.Group.Nat.Defs

/-!
# The walk over a namespace

Every function that is written gets a call site on the walk, and two facts about call sites are all
that finding the function again needs. The site points to the function: its positions are those of
the function, or of the container and the method in it. And no two sites have one number, as long as
the counter does not wrap: the numbers ascend along the walk, and functions that are left out only
leave gaps.

What an item owes to its symbol is said once, by `Leaves`: every item of the walk is left of a
symbol at a position, and what is known of items is known of each way to leave one.
-/

namespace Introspect.Binding

open Source (Step Block File)

/-- The function an item is for, with its call site. -/
def Item.function? : Item → Option (Function × Site)
  | .function f site => some (f, site)
  | _ => none

/-- The functions that are written, with their call sites. -/
def emitted (items : List Item) : List (Function × Site) := items.filterMap Item.function?

theorem mem_emitted {items : List Item} {f : Function} {site : Site} :
    (f, site) ∈ emitted items ↔ .function f site ∈ items := by
  rw [emitted, List.mem_filterMap]
  constructor
  · rintro ⟨item, hitem, h⟩
    cases item <;> cases h
    exact hitem
  · intro h
    exact ⟨_, h, rfl⟩

theorem emitted_append (xs ys : List Item) : emitted (xs ++ ys) = emitted xs ++ emitted ys :=
  List.filterMap_append

/-! ## Where items come from -/

/-- What the walk leaves of a symbol at a position. -/
inductive Leaves (e : Env) (index : Nat) : Info → Item → Prop
  | function (f : Function) (n : Counters) :
      Leaves e index (.function f) (functionItem e.scope f index 0 none n).1
  | callback {cb : Introspect.Callback} {kind : CallbackKind} : e.callback? cb.name = some kind →
      Leaves e index (.callback cb) (.callback cb kind)
  | ignored {kind : ContainerKind} {c : Introspect.Container} {reason : String} :
      ignoredReason? e.scope c kind = some reason →
      Leaves e index (.container kind c) (.ignored reason)
  | container {kind : ContainerKind} {c : Introspect.Container} (getType : Option UInt32) :
      ignoredReason? e.scope c kind = none →
      Leaves e index (.container kind c) (.container kind c getType)
  | method {kind : ContainerKind} {c : Introspect.Container} {f : Function} {m : Nat}
      (n : Counters) : c.methods[m]? = some f →
      Leaves e index (.container kind c) (functionItem e.scope f index m (some (kind, c)) n).1
  | enum (en : Introspect.Enumeration) (getType : Option UInt32) :
      Leaves e index (.enum en) (.enumeration en false getType)
  | flags (en : Introspect.Enumeration) (getType : Option UInt32) :
      Leaves e index (.flags en) (.enumeration en true getType)
  | constant (c : Introspect.Constant) : Leaves e index (.constant c) (.constant c)

theorem exists_method_of_mem {s : Scope} {kind : ContainerKind} {c : Introspect.Container}
    {index : Nat} {methods : List Function} {item : Item} :
    ∀ {i : Nat} {n : Counters}, item ∈ (methodItems s kind c index i n methods).1 →
      ∃ m f n', methods[m]? = some f ∧
        item = (functionItem s f index (i + m) (some (kind, c)) n').1 := by
  induction methods with
  | nil => intro i n h; cases h
  | cons f rest ih =>
      intro i n h
      rw [methodItems] at h
      rcases List.mem_cons.mp h with rfl | h
      · exact ⟨0, f, n, rfl, rfl⟩
      · obtain ⟨m, g, n', hg, hitem⟩ := ih h
        exact ⟨m + 1, g, n', hg, by rw [hitem, Nat.add_assoc, Nat.add_comm 1]⟩

theorem leaves_of_mem_infoItems {e : Env} {index : Nat} {n : Counters} {info : Info} {item : Item}
    (h : item ∈ (infoItems e index info n).1) : Leaves e index info item := by
  unfold infoItems at h
  cases info with
  | function f =>
      rw [List.mem_singleton.mp h]
      exact .function f n
  | callback cb =>
      dsimp only at h
      split at h
      · next kind hkind =>
          rw [List.mem_singleton.mp h]
          exact .callback hkind
      · cases h
  | container kind c =>
      dsimp only at h
      split at h
      · next reason hreason =>
          rw [List.mem_singleton.mp h]
          exact .ignored hreason
      · next hnone =>
          rcases List.mem_cons.mp h with rfl | h
          · exact .container _ hnone
          · obtain ⟨m, f, n', hf, rfl⟩ := exists_method_of_mem h
            rw [Nat.zero_add]
            exact .method n' hf
  | enum en =>
      rw [List.mem_singleton.mp h]
      exact .enum en _
  | flags en =>
      rw [List.mem_singleton.mp h]
      exact .flags en _
  | constant c =>
      rw [List.mem_singleton.mp h]
      exact .constant c

/-- Every item is left of a symbol, at its position. -/
theorem leaves_of_mem {e : Env} {infos : List Info} {item : Item} :
    ∀ {index : Nat} {n : Counters}, item ∈ (itemsFrom e index n infos).1 →
      ∃ k info, infos[k]? = some info ∧ Leaves e (index + k) info item := by
  induction infos with
  | nil => intro index n h; cases h
  | cons info rest ih =>
      intro index n h
      rw [itemsFrom] at h
      rcases List.mem_append.mp h with h | h
      · exact ⟨0, info, rfl, leaves_of_mem_infoItems h⟩
      · obtain ⟨k, info', hinfo, hleaves⟩ := ih h
        refine ⟨k + 1, info', hinfo, ?_⟩
        rwa [Nat.add_comm k, ← Nat.add_assoc]

theorem exists_infoItems_subset {e : Env} {infos : List Info} {info : Info} :
    ∀ (index : Nat) (n : Counters), info ∈ infos →
      ∃ index' n', (infoItems e index' info n').1 ⊆ (itemsFrom e index n infos).1 := by
  induction infos with
  | nil => intro index n h; cases h
  | cons first rest ih =>
      intro index n h
      rw [itemsFrom]
      rcases List.mem_cons.mp h with rfl | h
      · exact ⟨index, n, List.subset_append_left _ _⟩
      · obtain ⟨index', n', hsub⟩ := ih (index + 1) (infoItems e index first n).2 h
        exact ⟨index', n', fun item hitem => List.mem_append_right _ (hsub hitem)⟩

/-! ## Where call sites point -/

/-- The positions of a call site are those of its function. -/
def Site.PointsTo (infos : List Info) (f : Function) (site : Site) : Prop :=
  match site.container with
  | none => infos[site.index]? = some (.function f)
  | some (kind, c) =>
      infos[site.index]? = some (.container kind c) ∧ c.methods[site.methodIndex]? = some f

theorem site_of_functionItem {s : Scope} {f g : Function} {index methodIndex : Nat}
    {container : Option (ContainerKind × Introspect.Container)} {n : Counters} {site : Site}
    (h : (functionItem s f index methodIndex container n).1 = .function g site) :
    g = f ∧ site = ⟨n.function, index, methodIndex, container⟩ := by
  unfold functionItem at h
  dsimp only at h
  split at h <;> cases h
  exact ⟨rfl, rfl⟩

theorem pointsTo_of_mem {e : Env} {infos : List Info} {f : Function} {site : Site} {n : Counters}
    (h : .function f site ∈ (itemsFrom e 0 n infos).1) : site.PointsTo infos f := by
  obtain ⟨k, info, hinfo, hleaves⟩ := leaves_of_mem h
  rw [Nat.zero_add] at hleaves
  generalize hitem : Item.function f site = item at hleaves
  cases hleaves with
  | function g n' =>
      obtain ⟨rfl, rfl⟩ := site_of_functionItem hitem.symm
      exact hinfo
  | method n' hmethod =>
      obtain ⟨rfl, rfl⟩ := site_of_functionItem hitem.symm
      exact ⟨hinfo, hmethod⟩
  | callback | ignored | container | enum | flags | constant => cases hitem

/-! ## Numbers -/

/-- From one state of the counters to another `count` functions take a number each; those that are
written ascend. -/
structure Walked (n n' : Counters) (count : Nat) (items : List Item) : Prop where
  next : n'.function.toNat = n.function.toNat + count
  ascending : (emitted items).Pairwise fun a b => a.2.id < b.2.id
  bounds : ∀ c ∈ emitted items, n.function.toNat ≤ c.2.id.toNat ∧ c.2.id.toNat < n'.function.toNat

namespace Walked

theorem of_none {n n' : Counters} {items : List Item} (hn : n'.function = n.function)
    (h : emitted items = []) : Walked n n' 0 items := by
  constructor
  · rw [hn, Nat.add_zero]
  · rw [h]
    exact List.Pairwise.nil
  · rw [h]
    intro c hc
    cases hc

theorem append {n m n' : Counters} {k l : Nat} {xs ys : List Item} (h : Walked n m k xs)
    (h' : Walked m n' l ys) : Walked n n' (k + l) (xs ++ ys) := by
  have hle := h'.next
  have hle' := h.next
  constructor
  · omega
  · rw [emitted_append, List.pairwise_append]
    refine ⟨h.ascending, h'.ascending, ?_⟩
    intro a ha b hb
    exact UInt32.lt_iff_toNat_lt.mpr (Nat.lt_of_lt_of_le (h.bounds a ha).2 (h'.bounds b hb).1)
  · rw [emitted_append]
    intro c hc
    rcases List.mem_append.mp hc with hc | hc
    · have := h.bounds c hc
      omega
    · have := h'.bounds c hc
      omega

end Walked

theorem walked_functionItem {s : Scope} {f : Function} {index methodIndex : Nat}
    {container : Option (ContainerKind × Introspect.Container)} {n : Counters}
    (h : n.function.toNat + 1 < 2 ^ 32) :
    Walked n (functionItem s f index methodIndex container n).2 1
      [(functionItem s f index methodIndex container n).1] := by
  have hnext : (n.function + 1).toNat = n.function.toNat + 1 := by
    rw [UInt32.toNat_add, UInt32.toNat_one, Nat.mod_eq_of_lt h]
  unfold functionItem
  dsimp only
  split
  · constructor
    · exact hnext
    · exact List.Pairwise.nil
    · intro c hc
      cases hc
  · constructor
    · exact hnext
    · exact List.pairwise_singleton _ _
    · intro c hc
      rw [show emitted [Item.function f ⟨n.function, index, methodIndex, container⟩] =
        [(f, ⟨n.function, index, methodIndex, container⟩)] from rfl, List.mem_singleton] at hc
      subst hc
      simp only [hnext]
      omega

theorem walked_methodItems {s : Scope} {kind : ContainerKind} {c : Introspect.Container}
    {index : Nat} {fs : List Function} :
    ∀ {i : Nat} {n : Counters}, n.function.toNat + fs.length < 2 ^ 32 →
      Walked n (methodItems s kind c index i n fs).2 fs.length
        (methodItems s kind c index i n fs).1 := by
  induction fs with
  | nil => intro i n h; exact .of_none rfl rfl
  | cons f rest ih =>
      intro i n h
      rw [List.length_cons] at h
      have hhead : Walked n (functionItem s f index i (some (kind, c)) n).2 1
          [(functionItem s f index i (some (kind, c)) n).1] := walked_functionItem (by omega)
      have hbound : (functionItem s f index i (some (kind, c)) n).2.function.toNat + rest.length <
          2 ^ 32 := by
        rw [hhead.next]
        omega
      have hrest := ih (i := i + 1) hbound
      rw [List.length_cons, Nat.add_comm]
      exact hhead.append hrest

/-- A symbol takes one number for each of its functions. -/
theorem walked_infoItems {e : Env} {info : Info} {n : Counters} (index : Nat)
    (h : n.function.toNat + info.functions.length < 2 ^ 32) :
    Walked n (infoItems e index info n).2 info.functions.length (infoItems e index info n).1 := by
  unfold infoItems
  cases info with
  | function f => exact walked_functionItem h
  | callback cb =>
      dsimp only
      split
      · exact .of_none rfl rfl
      · exact .of_none rfl rfl
  | container kind c =>
      dsimp only
      split
      · next reason hreason =>
          -- A container is left out only when it has no methods, so no number is lost.
          have hnone : c.methods.length = 0 := by
            unfold ignoredReason? at hreason
            split at hreason
            · next hempty =>
                rw [Bool.and_eq_true] at hempty
                exact List.isEmpty_iff_length_eq_zero.mp hempty.2
            · cases hreason
          rw [show (Info.container kind c).functions = c.methods from rfl, hnone]
          exact .of_none rfl rfl
      · have hmethods : Walked (takeGetType e.scope c.name c.typeInit n).2 _ c.methods.length
            (methodItems e.scope kind c index 0 (takeGetType e.scope c.name c.typeInit n).2
              c.methods).1 := walked_methodItems h
        exact ⟨hmethods.next, hmethods.ascending, hmethods.bounds⟩
  | enum en | flags en | constant c => exact .of_none rfl rfl

/-- The walk takes one number for each function of the symbols. -/
theorem walked_itemsFrom {e : Env} {infos : List Info} :
    ∀ (index : Nat) {n : Counters},
      n.function.toNat + (infos.flatMap Info.functions).length < 2 ^ 32 →
        Walked n (itemsFrom e index n infos).2 (infos.flatMap Info.functions).length
          (itemsFrom e index n infos).1 := by
  induction infos with
  | nil => intro index n h; exact .of_none rfl rfl
  | cons info rest ih =>
      intro index n h
      rw [List.flatMap_cons, List.length_append] at h ⊢
      have hhere : Walked n (infoItems e index info n).2 info.functions.length
          (infoItems e index info n).1 := walked_infoItems index (by omega)
      have hbound : (infoItems e index info n).2.function.toNat +
          (rest.flatMap Info.functions).length < 2 ^ 32 := by
        rw [hhere.next]
        omega
      exact hhere.append (ih (index + 1) hbound)

/-- Call sites with one number are the same. -/
theorem Walked.eq_of_id_eq {n n' : Counters} {count : Nat} {items : List Item}
    (h : Walked n n' count items) {a b : Function × Site} (ha : a ∈ emitted items)
    (hb : b ∈ emitted items) (hid : a.2.id = b.2.id) : a = b := by
  obtain ⟨i, hi, rfl⟩ := List.getElem_of_mem ha
  obtain ⟨j, hj, rfl⟩ := List.getElem_of_mem hb
  have hasc := List.pairwise_iff_getElem.mp h.ascending
  rcases Nat.lt_trichotomy i j with hlt | rfl | hlt
  · exact absurd hid (UInt32.ne_of_lt (hasc i j hi hj hlt))
  · rfl
  · exact absurd hid.symm (UInt32.ne_of_lt (hasc j i hj hi hlt))

/-! ## The file -/

theorem mem_of_mapM_eq_some {α β : Type} {f : α → Option β} {x : α} {y : β} (hy : f x = some y) :
    ∀ {xs : List α} {ys : List β}, xs.mapM f = some ys → x ∈ xs → y ∈ ys := by
  intro xs
  induction xs with
  | nil => intro ys _ hx; cases hx
  | cons z rest ih =>
      intro ys h hx
      rw [List.mapM_cons] at h
      obtain ⟨w, hw, h⟩ := Option.bind_eq_some_iff.mp h
      obtain ⟨ws, hws, h⟩ := Option.bind_eq_some_iff.mp h
      cases h
      rcases List.mem_cons.mp hx with rfl | hx
      · rw [hy] at hw
        cases hw
        exact List.mem_cons_self
      · exact List.mem_cons_of_mem _ (ih hws hx)

theorem next_of_generate? {s : Scope} {start : Counters} {g : Generated}
    (h : generate? s start = some g) : g.next = (itemsFrom (Env.of s) 0 start s.space.infos).2 := by
  unfold generate? at h
  obtain ⟨blocks, -, h⟩ := Option.bind_eq_some_iff.mp h
  cases h
  rfl

/-- A file keeps all blocks pushed but the empty ones. -/
theorem blocks_foldl_push (bs : List Block) :
    ∀ file : File, (bs.foldl File.push file).blocks = file.blocks ++ bs.filter (!·.isEmpty) := by
  induction bs with
  | nil => intro file; exact (List.append_nil _).symm
  | cons b rest ih =>
      intro file
      rw [List.foldl_cons, ih]
      unfold File.push
      cases hb : b.isEmpty with
      | true => rw [List.filter_cons_of_neg (by simp [hb])]; rfl
      | false =>
          rw [List.filter_cons_of_pos (by simp [hb])]
          simp

theorem steps_ne_nil (c : Call) : c.steps ≠ [] := by
  unfold Call.steps
  dsimp only
  split <;> simp

/-- The block of every item is in the file, unless it has no steps. -/
theorem ofSteps_mem_blocks {s : Scope} {start : Counters} {g : Generated} {item : Item}
    {steps : List Step} (hg : generate? s start = some g)
    (hitem : item ∈ (itemsFrom (Env.of s) 0 start s.space.infos).1)
    (hsteps : item.steps? (Env.of s) = some steps) (hne : steps ≠ []) :
    Block.ofSteps steps ∈ g.file.blocks := by
  unfold generate? at hg
  obtain ⟨blocks, hblocks, hg⟩ := Option.bind_eq_some_iff.mp hg
  cases hg
  have hmem := mem_of_mapM_eq_some (y := (item, Block.ofSteps steps)) (by rw [hsteps]; rfl)
    hblocks hitem
  rw [blocks_foldl_push, List.nil_append, List.mem_filter]
  refine ⟨List.mem_append_right _ (List.mem_map.mpr ⟨_, hmem, rfl⟩), ?_⟩
  rw [Block.isEmpty_ofSteps hne]
  rfl

end Introspect.Binding

import Introspect.Proofs.Tables
import Introspect.Proofs.Utf8
import Introspect.Storage.Disk

/-!
# What writing leaves alone

A path leads to one location, whatever is on the disk: what is there only decides whether the way is
open. So two paths that lead to different locations never stand for one file. Making directories
adds directories where nothing was, and writing a file changes one location that is no directory; no
way that was open is closed by either, and a file elsewhere still reads the same.
-/

namespace Introspect.Storage.Disk

open Text

/-- What comes out of two steps has come out of both. -/
theorem bind_eq_ok_iff {ε α β : Type} {x : Except ε α} {f : α → Except ε β} {b : β} :
    x >>= f = .ok b ↔ ∃ a, x = .ok a ∧ f a = .ok b := by
  cases x with
  | error e => exact ⟨nofun, nofun⟩
  | ok a => exact ⟨fun h => ⟨a, rfl, h⟩, fun ⟨a', ha, h⟩ => by cases ha; exact h⟩

theorem mapError_eq_ok_iff {ε ε' α : Type} {f : ε → ε'} {x : Except ε α} {a : α} :
    x.mapError f = .ok a ↔ x = .ok a := by
  cases x with
  | error e => exact ⟨nofun, nofun⟩
  | ok b => exact ⟨fun h => by cases h; rfl, fun h => by cases h; rfl⟩

/-! ## Where paths lead -/

/-- One name further, whatever stands there. -/
def enter (l : Location) (name : String) : Location :=
  if name = "" ∨ name = "." then l else if name = ".." then l.dropLast else l ++ [name]

/-- The location a path leads to. -/
def target (path : String) : Location := (pathNames path).foldl enter []

theorem step_eq_ok_iff {d : Disk} {l l' : Location} {name : String} :
    d.step l name = .ok l' ↔ d.at? l = some .directory ∧ l' = enter l name := by
  unfold step enter
  cases d.at? l with
  | none => simp
  | some e =>
      cases e with
      | file bytes => simp
      | directory =>
          dsimp only
          split
          · simp [eq_comm]
          · split <;> simp [eq_comm]

theorem foldlM_step_eq {d : Disk} {names : List String} : ∀ {l l' : Location},
    names.foldlM d.step l = .ok l' → l' = names.foldl enter l := by
  induction names with
  | nil =>
      intro l l' h
      cases h
      rfl
  | cons name rest ih =>
      intro l l' h
      rw [List.foldlM_cons, bind_eq_ok_iff] at h
      obtain ⟨m, hstep, h⟩ := h
      rw [List.foldl_cons, ← (step_eq_ok_iff.mp hstep).2]
      exact ih h

/-- Where the directories on the way are still there, the way is still open. -/
theorem foldlM_step_of_directories {d d' : Disk}
    (hd : ∀ m, d.at? m = some .directory → d'.at? m = some .directory) {names : List String} :
    ∀ {l l' : Location}, names.foldlM d.step l = .ok l' → names.foldlM d'.step l = .ok l' := by
  induction names with
  | nil => intro l l' h; exact h
  | cons name rest ih =>
      intro l l' h
      rw [List.foldlM_cons, bind_eq_ok_iff] at h ⊢
      obtain ⟨m, hstep, h⟩ := h
      obtain ⟨hl, hm⟩ := step_eq_ok_iff.mp hstep
      exact ⟨m, step_eq_ok_iff.mpr ⟨hd l hl, hm⟩, ih h⟩

theorem resolve_eq_ok_iff {d : Disk} {path : String} {l : Location} :
    d.resolve path = .ok l ↔ refused? path = none ∧ (pathNames path).foldlM d.step [] = .ok l := by
  unfold resolve
  cases refused? path <;> simp

theorem target_of_resolve {d : Disk} {path : String} {l : Location} (h : d.resolve path = .ok l) :
    l = target path :=
  foldlM_step_eq (resolve_eq_ok_iff.mp h).2

/-! ## Changes -/

theorem at?_nil (d : Disk) : d.at? [] = some .directory := rfl

theorem at?_put_self {d : Disk} {l : Location} {e : Entry} (h : l ≠ []) :
    (d.put l e).at? l = some e := by
  rw [at?, if_neg (by simpa using h), put, List.lookup_cons, beq_self_eq_true]

theorem at?_put_of_ne {d : Disk} {l m : Location} {e : Entry} (h : m ≠ l) :
    (d.put l e).at? m = d.at? m := by
  rw [at?, at?, put, List.lookup_cons, beq_false_of_ne h]
  simp only [lookup_filter_ne h]

/-- Nothing is changed but at the locations `ls`, except that directories are made where nothing
was; and every directory is still there. -/
structure Spares (ls : List Location) (d d' : Disk) : Prop where
  directories : ∀ m, d.at? m = some .directory → d'.at? m = some .directory
  entry : ∀ l ∉ ls, d'.at? l = d.at? l ∨ d.at? l = none ∧ d'.at? l = some .directory

namespace Spares

variable {l : Location} {ls ms : List Location} {d d' d'' : Disk}

theorem refl (ls : List Location) (d : Disk) : Spares ls d d := ⟨fun _ h => h, fun _ _ => .inl rfl⟩

theorem trans (h : Spares ls d d') (h' : Spares ls d' d'') : Spares ls d d'' where
  directories m hm := h'.directories m (h.directories m hm)
  entry l hl := by
    rcases h'.entry l hl with heq' | ⟨hnone', hdir'⟩
    · rw [heq']
      exact h.entry l hl
    · rcases h.entry l hl with heq | ⟨-, hdir⟩
      · exact .inr ⟨heq ▸ hnone', hdir'⟩
      · rw [hdir] at hnone'
        cases hnone'

theorem mono (hsub : ls ⊆ ms) (h : Spares ls d d') : Spares ms d d' :=
  ⟨h.directories, fun l hl => h.entry l fun hmem => hl (hsub hmem)⟩

/-- No file at another location is changed, lost or made. -/
theorem file_iff (h : Spares ls d d') (hne : l ∉ ls) {bytes : Utf8.Bytes} :
    d'.at? l = some (.file bytes) ↔ d.at? l = some (.file bytes) := by
  rcases h.entry l hne with heq | ⟨hnone, hdir⟩
  · rw [heq]
  · rw [hnone, hdir]
    exact ⟨nofun, nofun⟩

end Spares

theorem directories_put {d : Disk} {l m : Location} {e : Entry} (hl : d.at? l ≠ some .directory)
    (hm : d.at? m = some .directory) : (d.put l e).at? m = some .directory := by
  have hne : m ≠ l := by
    rintro rfl
    exact hl hm
  rw [at?_put_of_ne hne, hm]

/-! ## Directories -/

section
variable {d d' : Disk} {l : Location} {path : String}

theorem exists_of_makeDirectory (h : d.makeDirectory path = .ok d') :
    ∃ m, d.at? m = none ∧ d' = d.put m .directory := by
  unfold makeDirectory at h
  cases hrefused : refused? path with
  | some e =>
      rw [hrefused] at h
      cases h
  | none =>
      rw [hrefused] at h
      obtain ⟨m, -, h⟩ := bind_eq_ok_iff.mp h
      split at h
      · cases h
      · next hm =>
          cases h
          exact ⟨m, hm, rfl⟩

theorem spares_makeDirectory (h : d.makeDirectory path = .ok d') : Spares [] d d' := by
  obtain ⟨m, hm, rfl⟩ := exists_of_makeDirectory h
  have hdir : d.at? m ≠ some .directory := by
    rw [hm]
    nofun
  refine ⟨fun _ => directories_put hdir, fun l _ => ?_⟩
  by_cases hne : l = m
  · subst hne
    have hnil : l ≠ [] := by
      rintro rfl
      cases hm
    exact .inr ⟨hm, at?_put_self hnil⟩
  · exact .inl (at?_put_of_ne hne)

theorem spares_missing {paths : List String} : ∀ {d d' : Disk} {made : List String},
    d.missing paths = .ok (made, d') → Spares [] d d' := by
  induction paths with
  | nil =>
      intro d d' made h
      cases h
      exact .refl [] d
  | cons path rest ih =>
      intro d d' made h
      rw [missing] at h
      split at h
      · next d₁ hmake =>
          cases h
          exact spares_makeDirectory hmake
      · obtain ⟨found, hrest, h⟩ := bind_eq_ok_iff.mp h
        cases h
        exact ih hrest
      · split at h
        · cases h
          exact .refl [] d
        · cases h
      · cases h

theorem spares_makeAll {paths : List String} : ∀ {d' : Disk},
    d.makeAll paths = .ok d' → Spares [] d d' := by
  induction paths with
  | nil =>
      intro d' h
      cases h
      exact .refl [] d
  | cons path rest ih =>
      intro d' h
      rw [makeAll, bind_eq_ok_iff] at h
      obtain ⟨d₁, hrest, h⟩ := h
      split at h
      · next d₂ hmake =>
          cases h
          exact (ih hrest).trans (spares_makeDirectory hmake)
      · split at h
        · cases h
          exact ih hrest
        · cases h
      · cases h

theorem spares_makeDirectories (h : d.makeDirectories path = .ok d') : Spares [] d d' := by
  rw [makeDirectories, bind_eq_ok_iff] at h
  obtain ⟨found, hmissing, h⟩ := h
  exact (spares_missing hmissing).trans (spares_makeAll h)

end

/-! ## Files -/

section
variable {d d' : Disk} {path : String}

theorem bare_of_not_endsInSlash (h : endsInSlash path = false) :
    String.ofList (path.toList.reverse.dropWhile (· = '/')).reverse = path := by
  have hdrop : path.toList.reverse.dropWhile (· = '/') = path.toList.reverse := by
    rw [endsInSlash, ← List.head?_reverse] at h
    cases hcs : path.toList.reverse with
    | nil => rfl
    | cons c rest =>
        rw [hcs, List.head?_cons] at h
        rw [List.dropWhile_cons_of_neg (by simpa using h)]
  rw [hdrop, List.reverse_reverse, String.ofList_toList]

/-- A file is written at a location that is no directory. -/
theorem exists_of_write {bytes : Utf8.Bytes} (h : d.write path bytes = .ok d') :
    ∃ l, d.resolve path = .ok l ∧ d.at? l ≠ some .directory ∧ d' = d.put l (.file bytes) := by
  unfold write at h
  cases hrefused : refused? path with
  | some e =>
      rw [hrefused] at h
      cases h
  | none =>
      rw [hrefused] at h
      obtain ⟨l, hl, h⟩ := bind_eq_ok_iff.mp h
      cases hslash : endsInSlash path with
      | true =>
          rw [hslash] at h
          split at h <;> cases h
      | false =>
          rw [bare_of_not_endsInSlash hslash] at hl
          rw [hslash] at h
          refine ⟨l, hl, ?_⟩
          split at h
          · cases h
          · next bytes' hfile =>
              cases h
              exact ⟨by rw [hfile]; nofun, rfl⟩
          · next hnone =>
              cases h
              exact ⟨by rw [hnone]; nofun, rfl⟩

theorem exists_of_readText {text : String} (h : d.readText path = .ok text) :
    d.resolve path = .ok (target path) ∧ ∃ bytes, d.at? (target path) = some (.file bytes) ∧
      ∃ cs, Utf8.decode? bytes = some cs ∧ text = String.ofList cs := by
  rw [readText, bind_eq_ok_iff] at h
  obtain ⟨bytes, hbytes, h⟩ := h
  rw [readBytes, bind_eq_ok_iff] at hbytes
  obtain ⟨l, hl, hbytes⟩ := hbytes
  obtain rfl := target_of_resolve hl
  split at hbytes
  · cases hbytes
  · cases hbytes
  · next hfile =>
      cases hbytes
      refine ⟨hl, bytes, hfile, ?_⟩
      split at h
      · next cs hcs =>
          cases h
          exact ⟨cs, hcs, rfl⟩
      · cases h

theorem readText_eq_ok {l : Location} {bytes : Utf8.Bytes} {cs : List Char}
    (hl : d.resolve path = .ok l) (hfile : d.at? l = some (.file bytes))
    (hcs : Utf8.decode? bytes = some cs) : d.readText path = .ok (String.ofList cs) := by
  unfold readText readBytes
  rw [hl]
  dsimp only [bind, Except.bind]
  rw [hfile]
  dsimp only
  rw [hcs]

/-- A file at another location still reads the same. -/
theorem readText_of_spares {ls : List Location} {text : String} (hspares : Spares ls d d')
    (hne : target path ∉ ls) (h : d.readText path = .ok text) : d'.readText path = .ok text := by
  obtain ⟨hl, bytes, hfile, cs, hcs, rfl⟩ := exists_of_readText h
  have hl' : d'.resolve path = .ok (target path) := by
    rw [resolve_eq_ok_iff] at hl ⊢
    exact ⟨hl.1, foldlM_step_of_directories hspares.directories hl.2⟩
  exact readText_eq_ok hl' ((hspares.file_iff hne).mpr hfile) hcs

theorem readText_of_write {text : String}
    (h : d.write path (Utf8.encode text.toList) = .ok d') : d'.readText path = .ok text := by
  obtain ⟨l, hl, hdir, rfl⟩ := exists_of_write h
  have hl' : (d.put l (.file (Utf8.encode text.toList))).resolve path = .ok l := by
    rw [resolve_eq_ok_iff] at hl ⊢
    exact ⟨hl.1, foldlM_step_of_directories (fun _ => directories_put hdir) hl.2⟩
  have hnil : l ≠ [] := by
    rintro rfl
    exact hdir d.at?_nil
  rw [readText_eq_ok hl' (at?_put_self hnil) (Utf8.decode?_encode text.toList),
    String.ofList_toList]

/-- Writing a file changes nothing at another location. -/
theorem spares_write {bytes : Utf8.Bytes} (h : d.write path bytes = .ok d') :
    Spares [target path] d d' := by
  obtain ⟨m, hm, hdir, rfl⟩ := exists_of_write h
  obtain rfl := target_of_resolve hm
  refine ⟨fun _ => directories_put hdir, fun l hl => .inl (at?_put_of_ne ?_)⟩
  rwa [List.mem_singleton] at hl

/-- To save a file is to make directories, and then to write it. -/
theorem save_cases (d : Disk) (path : String) (bytes : Utf8.Bytes) :
    (∃ e made, d.save path bytes = (.error e, made) ∧ Spares [] d made) ∨
    ∃ made written, d.save path bytes = (.ok (), written) ∧ Spares [] d made ∧
      made.write path bytes = .ok written := by
  have hmade : ∀ made, (if (parent path).isEmpty then .ok d else d.makeDirectories (parent path)) =
      Except.ok made → Spares [] d made := by
    intro made h
    split at h
    · cases h
      exact .refl [] d
    · exact spares_makeDirectories h
  unfold save
  dsimp only
  split
  · next e _ => exact .inl ⟨e, d, rfl, .refl [] d⟩
  · next made h =>
      cases hwrite : made.write path bytes with
      | error e => exact .inl ⟨e, made, rfl, hmade made h⟩
      | ok written => exact .inr ⟨made, written, rfl, hmade made h, hwrite⟩

/-- Nor does making the directories for it, whether the file is then written or not. -/
theorem spares_save {bytes : Utf8.Bytes} : Spares [target path] d (d.save path bytes).2 := by
  rcases save_cases d path _ with ⟨e, made, hsave, hmade⟩ | ⟨made, written, hsave, hmade, hwrite⟩
  · rw [hsave]
    exact hmade.mono (List.nil_subset _)
  · rw [hsave]
    exact (hmade.mono (List.nil_subset _)).trans (spares_write hwrite)

/-- A text that has been saved is read back. -/
theorem readText_of_save {text : String}
    (h : d.save path (Utf8.encode text.toList) = (.ok (), d')) : d'.readText path = .ok text := by
  rcases save_cases d path _ with ⟨e, made, hsave, -⟩ | ⟨made, written, hsave, -, hwrite⟩
  · rw [hsave] at h
    cases h
  · rw [hsave] at h
    cases h
    exact readText_of_write hwrite

end

end Introspect.Storage.Disk

import Introspect.Proofs.Imports

/-!
# Lines of fragments and comments

A line is made of fragments of code with comments between them: directives, and markers of something
left undone. The scan for directives goes through it from the left. It passes by a fragment, in
which no comment opens; it takes a directive out up to its first closing mark, whatever the path may
look like; and it passes by a marker, which is no directive.

Slashes and stars may stand where two of these meet. The last slash of a directive is taken out with
it and opens nothing. The last slash of a marker stays, and so no star may follow it.
-/

namespace Introspect.Source

/-! ## Parts -/

/-- The character that a line keeps. -/
def Part.kept? : Part → Option Char
  | .char c => some c
  | .directive _ => none

/-- The path that a part asks for. -/
def Part.path? : Part → Option String
  | .char _ => none
  | .directive d =>
      if d.word = ['u', 's', 'e'] then some (Text.trim (String.ofList d.path)) else none

theorem strip_eq (line : String) :
    strip line = String.ofList ((parts 0 line.toList).filterMap Part.kept?) := by
  rw [strip]
  refine congrArg String.ofList (List.filterMap_congr fun p _ => ?_)
  cases p <;> rfl

theorem uses_eq (line : String) : uses line = (parts 0 line.toList).filterMap Part.path? := by
  rw [uses]
  refine List.filterMap_congr fun p _ => ?_
  cases p <;> rfl

theorem filterMap_kept_map (cs : List Char) : (cs.map Part.char).filterMap Part.kept? = cs := by
  rw [List.filterMap_map]
  exact List.filterMap_some

theorem filterMap_path_map (cs : List Char) : (cs.map Part.char).filterMap Part.path? = [] := by
  rw [List.filterMap_map]
  exact List.filterMap_none _

/-! ## Comments -/

/-- A comment that asks for a path, or one that says what is left undone. -/
inductive Comment
  | use (path : List Char)
  | todo (text : List Char)
deriving Repr, DecidableEq

namespace Comment

/-- The comment as it stands in a line. -/
def spelled : Comment → List Char
  | .use path => "/*use:".toList ++ path ++ "*/".toList
  | .todo text => "/*TODO ".toList ++ text ++ "*/".toList

/-- What a line keeps of the comment. -/
def kept : Comment → List Char
  | .use _ => []
  | .todo text => spelled (.todo text)

/-- The path that a file has to import. -/
def path? : Comment → Option String
  | .use path => some (Text.trim (String.ofList path))
  | .todo _ => none

/-- The comment ends with its closing mark, and no other one opens there or in a marker. -/
def Closes : Comment → List Char → Prop
  | .use path, _ => path ≠ [] ∧ '\n' ∉ path ∧ ¬ ['*', '/'] <:+: path
  | .todo text, fragment => Plain text ∧ ¬ ['*', '/'] <:+: text ∧ fragment.head? ≠ some '*'

instance (c : Comment) (fragment : List Char) : Decidable (c.Closes fragment) :=
  match c with
  | .use _ => inferInstanceAs (Decidable (_ ∧ _ ∧ _))
  | .todo _ => inferInstanceAs (Decidable (_ ∧ _ ∧ _))

/-- What the scan makes of the comment. -/
def parts : Comment → List Part
  | .use path => [.directive (useOf path)]
  | .todo text => (spelled (.todo text)).map .char

theorem head?_spelled (c : Comment) (cs : List Char) : (c.spelled ++ cs).head? = some '/' := by
  cases c <;> rfl

theorem filterMap_kept (c : Comment) : c.parts.filterMap Part.kept? = c.kept := by
  cases c with
  | use path => rfl
  | todo text => exact filterMap_kept_map _

theorem filterMap_path (c : Comment) : c.parts.filterMap Part.path? = c.path?.toList := by
  cases c with
  | use path => rfl
  | todo text => exact filterMap_path_map _

end Comment

/-! ## The scan -/

/-- The characters of comments, each with the fragment behind it. -/
def joined (pieces : List (Comment × List Char)) : List Char :=
  pieces.flatMap fun (c, fragment) => c.spelled ++ fragment

/-- The last slash of a comment meets another slash or nothing. -/
theorem head?_joined (pieces : List (Comment × List Char)) :
    (joined pieces).head? ≠ some '*' := by
  cases pieces with
  | nil => decide
  | cons p pieces =>
      show (p.1.spelled ++ p.2 ++ joined pieces).head? ≠ _
      rw [List.append_assoc, p.1.head?_spelled]
      decide

theorem head?_append_joined {fragment : List Char} (h : fragment.head? ≠ some '*')
    (pieces : List (Comment × List Char)) : (fragment ++ joined pieces).head? ≠ some '*' := by
  cases fragment with
  | nil => exact head?_joined pieces
  | cons c fragment => exact h

/-- A comment and the fragment behind it are scanned apart from what follows. -/
theorem parts_comment {c : Comment} {fragment : List Char} (hfragment : Plain fragment)
    (hcloses : c.Closes fragment) (pieces : List (Comment × List Char)) :
    parts 0 (c.spelled ++ (fragment ++ joined pieces)) =
      c.parts ++ (fragment.map Part.char ++ parts 0 (joined pieces)) := by
  rw [← parts_append_of_plain hfragment (head?_joined pieces)]
  cases c with
  | use path =>
      obtain ⟨hne, hbreak, hclose⟩ := hcloses
      have hspelled : Comment.spelled (.use path) = (useOf path).spelled := by
        rw [spelled_useOf, ← List.append_assoc]
        rfl
      rw [hspelled]
      exact parts_directive (directiveAt_useOf hne hbreak hclose _) rfl
  | todo text =>
      obtain ⟨htext, -, hstar⟩ := hcloses
      have hspelled : Comment.spelled (.todo text) = marker ++ (text ++ ['*', '/']) :=
        List.append_assoc _ _ _
      have htail : parts 0 (text ++ ['*', '/'] ++ (fragment ++ joined pieces)) =
          (text ++ ['*', '/']).map Part.char ++ parts 0 (fragment ++ joined pieces) :=
        parts_append fun x ys hys => directiveAt_closed htext hys (List.cons_ne_nil _ _)
          (head?_append_joined hstar pieces)
      rw [Comment.parts, hspelled, List.append_assoc marker, parts_marker, htail,
        ← List.append_assoc, ← List.map_append]

theorem parts_joined {pieces : List (Comment × List Char)}
    (h : ∀ p ∈ pieces, Plain p.2 ∧ p.1.Closes p.2) :
    parts 0 (joined pieces) =
      pieces.flatMap fun (c, fragment) => c.parts ++ fragment.map Part.char := by
  induction pieces with
  | nil => rfl
  | cons p pieces ih =>
      rw [List.forall_mem_cons] at h
      show parts 0 (p.1.spelled ++ p.2 ++ joined pieces) = _
      rw [List.append_assoc, parts_comment h.1.1 h.1.2, ih h.2, List.flatMap_cons,
        List.append_assoc]

/-! ## Lines -/

/-- A line in pieces that are told apart. -/
structure Fragmented where
  first : List Char
  pieces : List (Comment × List Char)
  plain_first : Plain first
  closed : ∀ p ∈ pieces, Plain p.2 ∧ p.1.Closes p.2

namespace Fragmented

variable (l : Fragmented)

/-- The line, with its comments. -/
def text : String := String.ofList (l.first ++ joined l.pieces)

/-- The fragments and the markers, in their order. -/
def kept : String :=
  String.ofList (l.first ++ l.pieces.flatMap fun (c, fragment) => c.kept ++ fragment)

/-- The paths that the comments ask for. -/
def paths : List String := l.pieces.filterMap (·.1.path?)

theorem parts_text : parts 0 l.text.toList = l.first.map Part.char ++
    l.pieces.flatMap fun (c, fragment) => c.parts ++ fragment.map Part.char := by
  rw [text, String.toList_ofList, parts_append_of_plain l.plain_first (head?_joined l.pieces),
    parts_joined l.closed]

theorem strip_text : strip l.text = l.kept := by
  rw [strip_eq, kept, l.parts_text, List.filterMap_append, filterMap_kept_map,
    List.filterMap_flatMap]
  congr 2
  refine List.flatMap_congr fun p _ => ?_
  rw [List.filterMap_append, p.1.filterMap_kept, filterMap_kept_map]

theorem uses_text : uses l.text = l.paths := by
  rw [uses_eq, paths, l.parts_text, List.filterMap_append, filterMap_path_map, List.nil_append,
    List.filterMap_flatMap, List.filterMap_eq_flatMap_toList]
  refine List.flatMap_congr fun p _ => ?_
  rw [List.filterMap_append, p.1.filterMap_path, filterMap_path_map, List.append_nil]

/-- A line that is appended keeps its fragments and markers, indented unless nothing is left, and
the paths of its directives join what the block imports. -/
theorem line_text (b : Block) :
    (b.line l.text).lines = b.lines ++ [indented b.indent l.kept] ∧
    (b.line l.text).indent = b.indent ∧
    (∀ path, path ∈ (b.line l.text).imports ↔ path ∈ b.imports ∨ path ∈ l.paths) ∧
    (b.imports.Pairwise (· < ·) → (b.line l.text).imports.Pairwise (· < ·)) := by
  have hlines : (b.line l.text).lines = b.lines ++ [indented b.indent (strip l.text)] := rfl
  have himports : (b.line l.text).imports =
      (uses l.text).foldl (fun s path => insertSorted path s) b.imports := rfl
  rw [hlines, himports, strip_text, uses_text]
  exact ⟨rfl, rfl, fun path => mem_foldl_insertSorted, sorted_foldl_insertSorted⟩

/-- Slashes and stars wherever pieces meet. -/
def toothed : Fragmented where
  first := "fn f(a: Bytes/".toList
  pieces := [(.use " super::glib/*2 *".toList, "*, b: gi::Todo".toList),
    (.todo "later /".toList, []), (.use "/".toList, "*) {}".toList)]
  plain_first := by decide
  closed := by decide

theorem line_text_toothed :
    (Block.line {} toothed.text).lines = ["fn f(a: Bytes/*, b: gi::Todo/*TODO later /*/*) {}"] ∧
      ∀ path, path ∈ (Block.line {} toothed.text).imports ↔ path ∈ ["super::glib/*2 *", "/"] := by
  obtain ⟨hlines, -, himports, -⟩ := toothed.line_text {}
  have hkept : indented 0 toothed.kept = "fn f(a: Bytes/*, b: gi::Todo/*TODO later /*/*) {}" := by
    decide +kernel
  have hpaths : toothed.paths = ["super::glib/*2 *", "/"] := by decide +kernel
  refine ⟨hlines.trans (congrArg ([] ++ [·]) hkept), fun path => ?_⟩
  rw [himports, hpaths]
  exact or_iff_right List.not_mem_nil

end Fragmented

end Introspect.Source

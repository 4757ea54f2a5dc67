import TermBind.Proofs.Artifact.Layout
import TermBind.Proofs.Collection.Splitting
import TermBind.Source.Word

/-! The document key in generated text. It stands in two comments, as it was written: from its first line
feed on it is code. -/
namespace TermBind

namespace Source

theorem lineFeed_not_mem_of_isWord {text : String} (word : IsWord text) : '\n' ∉ text.toList := by
  rcases word with plain | ⟨plain, spelled, isPlain⟩
  · exact not_mem_of_isPlain (by decide) (by decide) plain
  · have unheld : '\n' ∉ plain := not_mem_of_isPlain (by decide) (by decide) isPlain
    rw [spelled]
    simp [unheld]

end Source

namespace Artifact

theorem lineFeed_not_mem_of_mem_linesOf {text line : String} (member : line ∈ linesOf text) :
    '\n' ∉ line.toList := by
  obtain ⟨part, listed, rfl⟩ := List.mem_map.mp member
  rw [String.toList_ofList]
  exact Collection.not_mem_of_mem_splitOn listed

/-- The first line of a text, where another follows. -/
theorem exists_first_line {text : String} (cut : '\n' ∈ text.toList) :
    ∃ first rest, text = first ++ "\n" ++ rest ∧ '\n' ∉ first.toList := by
  obtain ⟨before, after, whole, own⟩ := List.eq_append_cons_of_mem cut
  refine ⟨String.ofList before, String.ofList after, ?_, by simpa using own⟩
  rw [← String.toList_inj]
  simp [whole]

/-- What stands in front of a text stands on its first line. -/
theorem linesOf_append {mark : String} (inline : '\n' ∉ mark.toList) (text : String) :
    ∃ first, linesOf (mark ++ text) = (mark ++ first) :: (linesOf text).tail := by
  by_cases cut : '\n' ∈ text.toList
  · obtain ⟨first, rest, rfl, own⟩ := exists_first_line cut
    refine ⟨first, ?_⟩
    rw [← String.append_assoc, ← String.append_assoc, linesOf_append_lineFeed, linesOf_append_lineFeed,
      linesOf_of_inline own, linesOf_of_inline (lineFeed_not_mem_append inline own)]
    rfl
  · refine ⟨text, ?_⟩
    rw [linesOf_of_inline cut]
    exact linesOf_of_inline (lineFeed_not_mem_append inline cut)

theorem tail_linesOf_eq_nil {text : String} : (linesOf text).tail = [] ↔ '\n' ∉ text.toList := by
  constructor
  · intro alone cut
    obtain ⟨first, rest, rfl, own⟩ := exists_first_line cut
    rw [linesOf_append_lineFeed, linesOf_of_inline own] at alone
    exact List.splitOn_ne_nil '\n' rest.toList (List.map_eq_nil_iff.mp alone)
  · intro inline
    rw [linesOf_of_inline inline]
    rfl

/-- Nothing is written in a line but blanks, or a comment after spaces. -/
def isQuiet (line : String) : Bool :=
  line.toList.all Unicode.isWhitespace || "//".toList.isPrefixOf (line.toList.dropWhile (· == ' '))

/-- The lines of a text with code, in order. -/
def codeLines (text : String) : List String := (linesOf text).filter fun line => !isQuiet line

/-- The code that an artifact should have: an item for the type that holds its constants. -/
def ownCode (binding : Binding) (schema : Document) : List String :=
  ["impl " ++ binding.typeName ++ " \x7b", declaration "PREFIX" binding.prefixLabel,
    declaration "PREFIX_URI" binding.prefixUri] ++
  (terms binding.prefixUri schema).map (fun term => declaration term.1 term.2) ++ ["\x7d"]

/-- The code that a text in a comment leaves it with: all but its first line stand outside. -/
def strayCode (text : String) : List String :=
  (linesOf text).tail.filter fun line => !isQuiet line

/-- The lines that a document key leaves its two comments with. -/
def strayLines (key : String) : List String :=
  (linesOf (key ++ ". Do not edit.")).tail ++ (linesOf (key ++ "`")).tail

/-- The two comments that a document key stands in. -/
def keyComments (key : String) : List String :=
  ["// @generated by ttlgen from " ++ key ++ ". Do not edit.",
    "    /// Preferred prefix for terms of `" ++ key ++ "`"]

theorem codeLines_textOf (lines : List String) :
    codeLines (textOf lines) = lines.flatMap codeLines := by
  rw [codeLines, linesOf_textOf_eq, List.filter_append, List.filter_flatMap]
  exact List.append_nil _

theorem codeLines_of_quiet {line : String} (inline : '\n' ∉ line.toList) (quiet : isQuiet line = true) :
    codeLines line = [] := by
  rw [codeLines, linesOf_of_inline inline]
  simp [quiet]

theorem codeLines_of_code {line : String} (inline : '\n' ∉ line.toList) (code : isQuiet line = false) :
    codeLines line = [line] := by
  rw [codeLines, linesOf_of_inline inline]
  simp [code]

/-- Whether a line is quiet shows in how it begins. -/
theorem isQuiet_append {mark : String} {quiet : Bool}
    (begun : ∀ rest, ((mark.toList ++ rest).all Unicode.isWhitespace ||
      "//".toList.isPrefixOf ((mark.toList ++ rest).dropWhile (· == ' '))) = quiet) (text : String) :
    isQuiet (mark ++ text) = quiet := by
  rw [isQuiet, String.toList_append]
  exact begun text.toList

theorem isQuiet_declaration (name value : String) : isQuiet (declaration name value) = false := by
  rw [isQuiet, toList_declaration]
  rfl

theorem codeLines_declaration {name : String} (inline : ∀ c ∈ name.toList, Unicode.IsInline c)
    (value : String) : codeLines (declaration name value) = [declaration name value] :=
  codeLines_of_code (lineFeed_not_mem_declaration inline value) (isQuiet_declaration name value)

theorem codeLines_comment {mark : String} (inline : '\n' ∉ mark.toList)
    (quiet : ∀ first, isQuiet (mark ++ first) = true) (text : String) :
    codeLines (mark ++ text) = strayCode text := by
  obtain ⟨first, lines⟩ := linesOf_append inline text
  rw [codeLines, lines, List.filter_cons_of_neg (by simp [quiet]), strayCode]

variable {binding : Binding} {schema : Document}

/-- Besides the stray lines of the document key, the heading has the code it should have. -/
theorem codeLines_heading (word : Source.IsWord binding.typeName) :
    (heading binding).flatMap codeLines =
      strayCode (binding.documentKey ++ ". Do not edit.") ++
      ("impl " ++ binding.typeName ++ " \x7b") ::
      (strayCode (binding.documentKey ++ "`") ++
        [declaration "PREFIX" binding.prefixLabel, declaration "PREFIX_URI" binding.prefixUri]) := by
  have first : codeLines ("// @generated by ttlgen from " ++ binding.documentKey ++ ". Do not edit.") =
      strayCode (binding.documentKey ++ ". Do not edit.") := by
    rw [String.append_assoc]
    exact codeLines_comment (by decide) (isQuiet_append fun _ => rfl) _
  have label : codeLines ("    /// Preferred prefix for terms of `" ++ binding.documentKey ++ "`") =
      strayCode (binding.documentKey ++ "`") := by
    rw [String.append_assoc]
    exact codeLines_comment (by decide) (isQuiet_append fun _ => rfl) _
  have opening : codeLines ("impl " ++ binding.typeName ++ " \x7b") =
      ["impl " ++ binding.typeName ++ " \x7b"] := by
    have typed := Source.lineFeed_not_mem_of_isWord word
    refine codeLines_of_code
      (lineFeed_not_mem_append (lineFeed_not_mem_append (by decide) typed) (by decide)) ?_
    rw [String.append_assoc]
    exact isQuiet_append (fun _ => rfl) _
  have shared : codeLines "    /// Namespace shared by the terms below" = [] := by decide +kernel
  have blank : codeLines "" = [] := by decide +kernel
  have reserved : ∀ name ∈ reservedNames, ∀ value,
      codeLines (declaration name value) = [declaration name value] := fun name member =>
    codeLines_declaration (isInline_of_mem_reservedNames member)
  simp only [heading, List.flatMap_cons, List.flatMap_nil, first, label, opening, shared, blank,
    reserved "PREFIX" (by decide), reserved "PREFIX_URI" (by decide), List.append_nil, List.nil_append,
    List.cons_append]

theorem codeLines_termLines {term : String × String}
    (inline : ∀ c ∈ term.1.toList, Unicode.IsInline c) :
    (termLines schema term).flatMap codeLines = [declaration term.1 term.2] := by
  have blank : codeLines "" = [] := by decide +kernel
  have bare : ∀ line ∈ comments schema term.2, codeLines line = [] := by
    intro line member
    obtain ⟨text, documented, rfl⟩ := mem_comments member
    exact codeLines_of_quiet
      (lineFeed_not_mem_append (by decide) (lineFeed_not_mem_documentation documented))
      (isQuiet_append (fun _ => rfl) text)
  rw [termLines, List.flatMap_append, List.flatMap_cons, blank, List.flatMap_eq_nil_iff.mpr bare,
    List.flatMap_singleton, codeLines_declaration inline]
  rfl

theorem eq_textOf_of_generate {text : String} (made : generate binding schema = .ok text) :
    text = textOf (layout binding schema) := by
  rw [(generate_eq_ok_iff.mp made).2, textOf_layout]

/-- The code of generated text: the stray lines of the document key with code, where they fall, and what
should be there. -/
theorem codeLines_generate {text : String} (word : Source.IsWord binding.typeName)
    (made : generate binding schema = .ok text) : codeLines text =
      strayCode (binding.documentKey ++ ". Do not edit.") ++
      ("impl " ++ binding.typeName ++ " \x7b") ::
      (strayCode (binding.documentKey ++ "`") ++
        (ownCode binding schema).tail) := by
  have peaceful := (generate_eq_ok_iff.mp made).1
  have each : ((terms binding.prefixUri schema).flatMap (termLines schema)).flatMap codeLines =
      (terms binding.prefixUri schema).map fun term => declaration term.1 term.2 := by
    rw [List.flatMap_assoc, List.flatMap_def, List.map_congr_left fun term member =>
      codeLines_termLines (isInline_of_mem_terms peaceful member), ← List.flatMap_def,
      ← List.map_eq_flatMap]
  have closing : codeLines "\x7d" = ["\x7d"] := by decide +kernel
  rw [eq_textOf_of_generate made, codeLines_textOf, layout, List.flatMap_append, List.flatMap_append,
    codeLines_heading word, each, List.flatMap_singleton, closing, ownCode]
  simp

theorem lineFeed_mem_of_mem_keyComments {key comment : String} (member : comment ∈ keyComments key) :
    '\n' ∈ comment.toList ↔ '\n' ∈ key.toList := by
  simp only [keyComments, List.mem_cons, List.not_mem_nil, or_false] at member
  rcases member with rfl | rfl
  all_goals simp [String.toList_append]

theorem mem_linesOf_of_mem_strayLines {key line : String} (member : line ∈ strayLines key) :
    ∃ comment ∈ keyComments key, line ∈ linesOf comment := by
  have after : ∀ {mark text : String}, '\n' ∉ mark.toList → line ∈ (linesOf text).tail →
      line ∈ linesOf (mark ++ text) := by
    intro mark text inline later
    obtain ⟨first, lines⟩ := linesOf_append inline text
    rw [lines]
    exact List.mem_cons_of_mem _ later
  rcases List.mem_append.mp member with first | second
  · refine ⟨_, List.mem_cons_self, ?_⟩
    rw [String.append_assoc]
    exact after (by decide) first
  · refine ⟨_, List.mem_cons_of_mem _ List.mem_cons_self, ?_⟩
    rw [String.append_assoc]
    exact after (by decide) second

theorem mem_linesOf_generate {text line comment : String} (made : generate binding schema = .ok text)
    (listed : comment ∈ keyComments binding.documentKey) (member : line ∈ linesOf comment) :
    line ∈ linesOf text := by
  have first : comment ∈ heading binding := by
    simp only [keyComments, List.mem_cons, List.not_mem_nil, or_false] at listed
    rcases listed with rfl | rfl
    all_goals simp [heading]
  rw [eq_textOf_of_generate made, linesOf_textOf_eq]
  refine List.mem_append_left _ (List.mem_flatMap.mpr ⟨comment, ?_, member⟩)
  exact List.mem_append_left _ (List.mem_append_left _ first)

theorem forall_mem_strayLines {key : String} : (∀ line ∈ strayLines key, isQuiet line = true) ↔
    strayCode (key ++ ". Do not edit.") = [] ∧ strayCode (key ++ "`") = [] := by
  simp only [strayLines, List.forall_mem_append, strayCode, List.filter_eq_nil_iff, Bool.not_eq_true,
    Bool.not_eq_false']

theorem strayLines_eq_nil {key : String} : strayLines key = [] ↔ '\n' ∉ key.toList := by
  rw [strayLines, List.append_eq_nil_iff, tail_linesOf_eq_nil, tail_linesOf_eq_nil]
  simp

/-- Generated text for a type called by a word has the code it should have, and no more, just if the
document key leaves only blanks and comments behind. The key stays within its comments just if it has no
line feed. -/
theorem codeLines_generate_iff {binding : Binding} {schema : Document} {text : String}
    (word : Source.IsWord binding.typeName) (made : generate binding schema = .ok text) :
    (codeLines text = ownCode binding schema ↔
      ∀ line ∈ strayLines binding.documentKey, isQuiet line = true) ∧
    (∀ line ∈ strayLines binding.documentKey, line ∈ linesOf text) ∧
    (strayLines binding.documentKey = [] ↔ '\n' ∉ binding.documentKey.toList) ∧
    ((∀ comment ∈ keyComments binding.documentKey, comment ∈ linesOf text) ↔
      '\n' ∉ binding.documentKey.toList) := by
  refine ⟨?_, ?_, strayLines_eq_nil, ?_⟩
  · have own : ownCode binding schema =
        ("impl " ++ binding.typeName ++ " \x7b") :: (ownCode binding schema).tail := rfl
    rw [codeLines_generate word made, forall_mem_strayLines]
    constructor
    · intro same
      have counted := congrArg List.length same
      rw [own] at counted
      simp only [List.length_append, List.length_cons, List.tail_cons] at counted
      exact ⟨List.length_eq_zero_iff.mp (by omega), List.length_eq_zero_iff.mp (by omega)⟩
    · rintro ⟨first, second⟩
      rw [first, second]
      exact own.symm
  · intro line member
    obtain ⟨comment, listed, own⟩ := mem_linesOf_of_mem_strayLines member
    exact mem_linesOf_generate made listed own
  · constructor
    · intro commented fed
      exact lineFeed_not_mem_of_mem_linesOf (commented _ List.mem_cons_self)
        ((lineFeed_mem_of_mem_keyComments List.mem_cons_self).mpr fed)
    · intro inline comment listed
      refine mem_linesOf_generate made listed ?_
      rw [linesOf_of_inline (mt (lineFeed_mem_of_mem_keyComments listed).mp inline)]
      exact List.mem_singleton_self comment

/-- A request for a document that is called as given. -/
def requestFor (key : String) : Binding where
  documentKey := key
  scope := "crate"
  typeName := "A"
  prefixLabel := "a"
  prefixUri := "http://a/"

/-- A key that goes on with a comment leaves its own without adding code. -/
theorem codeLines_generate_iff_remark :
    let binding := requestFor "a.ttl\n// b"
    ∃ text, Source.IsWord binding.typeName ∧ generate binding ⟨"a.ttl", []⟩ = .ok text ∧
      codeLines text = ownCode binding ⟨"a.ttl", []⟩ ∧
      ¬ ∀ comment ∈ keyComments binding.documentKey, comment ∈ linesOf text := by
  intro binding
  have word : Source.IsWord binding.typeName := Or.inl (by decide +kernel)
  have made : generate binding ⟨"a.ttl", []⟩ = .ok (header binding ++ String.join [] ++ "\x7d\n") := rfl
  obtain ⟨code, _, _, commented⟩ := codeLines_generate_iff word made
  exact ⟨_, word, made, code.mpr (by decide +kernel), fun kept => commented.mp kept (by decide +kernel)⟩

/-- An accepted request whose document key has a function in it. The function is code of the artifact. -/
theorem codeLines_generate_injected :
    let binding := requestFor "a.ttl\npub fn injected() \x7b\x7d\n//"
    binding.validated = .ok binding ∧ Source.IsWord binding.typeName ∧
      ∃ text, generate binding ⟨"a.ttl", []⟩ = .ok text ∧
        "pub fn injected() \x7b\x7d" ∈ codeLines text ∧
        "pub fn injected() \x7b\x7d" ∉ ownCode binding ⟨"a.ttl", []⟩ := by
  intro binding
  have sound : binding.problem? = none := by decide +kernel
  have accepted : binding.validated = .ok binding := by rw [Binding.validated, sound]
  have word : Source.IsWord binding.typeName := Or.inl (by decide +kernel)
  have made : generate binding ⟨"a.ttl", []⟩ = .ok (header binding ++ String.join [] ++ "\x7d\n") := rfl
  have stray : "pub fn injected() \x7b\x7d" ∈ strayLines binding.documentKey := by decide +kernel
  obtain ⟨comment, listed, own⟩ := mem_linesOf_of_mem_strayLines stray
  exact ⟨accepted, word, _, made,
    List.mem_filter.mpr ⟨mem_linesOf_generate made listed own, by decide +kernel⟩, by decide +kernel⟩

end Artifact
end TermBind

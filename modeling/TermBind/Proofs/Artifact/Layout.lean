import TermBind.Proofs.Artifact.Lines

/-! The lines that generated text is made of. -/
namespace TermBind.Artifact

/-- The line that declares a constant. -/
def declaration (name value : String) : String :=
  "    pub const " ++ name ++ ": &'static str = " ++ Quoted.encode value ++ ";"

theorem toList_declaration (name value : String) : (declaration name value).toList =
    "    pub const ".toList ++
      (name.toList ++ (": &'static str = ".toList ++ ((Quoted.encode value).toList ++ [';']))) := by
  unfold declaration
  rw [String.toList_append, String.toList_append, String.toList_append, String.toList_append,
    List.append_assoc, List.append_assoc, List.append_assoc]
  rfl

theorem lineFeed_not_mem_declaration {name : String} (inline : ∀ c ∈ name.toList, Unicode.IsInline c)
    (value : String) : '\n' ∉ (declaration name value).toList := by
  have own : '\n' ∉ name.toList := fun member => (inline _ member).2 rfl
  rw [toList_declaration]
  simp only [List.mem_append, not_or]
  exact ⟨by decide, own, by decide, Quoted.lineFeed_not_mem_encode value, by decide⟩

variable (binding : Binding) (schema : Document)

/-- The lines that every artifact begins with. -/
def heading : List String :=
  ["// @generated by ttlgen from " ++ binding.documentKey ++ ". Do not edit.", "",
    "impl " ++ binding.typeName ++ " \x7b",
    "    /// Preferred prefix for terms of `" ++ binding.documentKey ++ "`",
    declaration "PREFIX" binding.prefixLabel, "",
    "    /// Namespace shared by the terms below",
    declaration "PREFIX_URI" binding.prefixUri]

/-- The comment before the constant of an IRI, if there is one. -/
def comments (iri : String) : List String :=
  ((documentation? schema iri).map fun text => "    /// " ++ text).toList

def termLines (term : String × String) : List String :=
  "" :: comments schema term.2 ++ [declaration term.1 term.2]

/-- The lines of an artifact. -/
def layout : List String :=
  heading binding ++ (terms binding.prefixUri schema).flatMap (termLines schema) ++ ["\x7d"]

theorem textOf_heading : textOf (heading binding) = header binding := by
  -- The pieces of the header that hold a line feed, cut there.
  have cut : header binding = "// @generated by ttlgen from " ++ binding.documentKey ++
      (". Do not edit." ++ "\n" ++ ("" ++ "\n") ++ "impl ") ++ binding.typeName ++
      (" \x7b" ++ "\n" ++ "    /// Preferred prefix for terms of `") ++ binding.documentKey ++
      ("`" ++ "\n") ++ ("    pub const " ++ "PREFIX" ++ ": &'static str = " ++
        Quoted.encode binding.prefixLabel ++ (";" ++ "\n")) ++
      ("" ++ "\n" ++ "    /// Namespace shared by the terms below" ++ "\n") ++
      ("    pub const " ++ "PREFIX_URI" ++ ": &'static str = " ++ Quoted.encode binding.prefixUri ++
        (";" ++ "\n")) := rfl
  rw [cut, heading]
  unfold declaration
  simp only [-String.reduceAppend, textOf, List.map_cons, List.map_nil, String.join_cons,
    String.join_nil, String.append_assoc, String.append_empty]

theorem textOf_termLines (term : String × String) :
    textOf (termLines schema term) = termText schema term.1 term.2 := by
  have ended : ∀ text : String, text ++ ";\n" = text ++ ";" ++ "\n" := fun text =>
    (String.append_assoc : text ++ ";" ++ "\n" = text ++ (";" ++ "\n")).symm
  have constant : constantLine term.1 term.2 = declaration term.1 term.2 ++ "\n" := ended _
  rw [termText, termLines, comments, constant]
  cases documentation? schema term.2 <;>
    simp only [-String.reduceAppend, textOf, Option.map_none, Option.toList_none, Option.map_some,
      Option.toList_some, List.cons_append, List.nil_append, List.map_cons, List.map_nil,
      String.join_cons, String.join_nil, String.append_empty, String.empty_append, String.append_assoc]

theorem textOf_layout : textOf (layout binding schema) =
    header binding ++
      String.join ((terms binding.prefixUri schema).map fun term => termText schema term.1 term.2) ++
        "\x7d\n" := by
  have each : textOf ((terms binding.prefixUri schema).flatMap (termLines schema)) =
      String.join ((terms binding.prefixUri schema).map fun term => termText schema term.1 term.2) := by
    induction terms binding.prefixUri schema with
    | nil => rfl
    | cons term rest ih =>
      rw [List.flatMap_cons, textOf_append, ih, textOf_termLines, List.map_cons, String.join_cons]
  rw [layout, textOf_append, textOf_append, textOf_heading, each]
  rfl

variable {binding schema}

theorem isInline_of_mem_reservedNames {name : String} (member : name ∈ reservedNames) :
    ∀ c ∈ name.toList, Unicode.IsInline c := by
  have each : ∀ name ∈ reservedNames,
      (name.toList.all fun c => decide (Unicode.IsInline c)) = true := by decide
  intro c own
  exact of_decide_eq_true (List.all_eq_true.mp (each name member) c own)

theorem isInline_of_mem_terms {term : String × String} (peaceful : IsPeaceful binding.prefixUri schema)
    (member : term ∈ terms binding.prefixUri schema) : ∀ c ∈ term.1.toList, Unicode.IsInline c := by
  obtain ⟨below, _, named⟩ := Option.bind_eq_some_iff.mp ((mem_terms peaceful).mp member).2
  exact Constant.isInline_of_ofLocal? named

theorem mem_comments {schema : Document} {iri line : String} (member : line ∈ comments schema iri) :
    ∃ text, documentation? schema iri = some text ∧ line = "    /// " ++ text := by
  rw [comments, Option.mem_toList, Option.map_eq_some_iff] at member
  obtain ⟨text, known, rfl⟩ := member
  exact ⟨text, known, rfl⟩

/-- What a line of an artifact can be. -/
inductive IsLaidOut (binding : Binding) (schema : Document) : String → Prop where
  | heading {line : String} (member : line ∈ heading binding) : IsLaidOut binding schema line
  | blank : IsLaidOut binding schema ""
  | comment {iri text : String} (documented : documentation? schema iri = some text) :
      IsLaidOut binding schema ("    /// " ++ text)
  | constant {term : String × String} (member : term ∈ terms binding.prefixUri schema) :
      IsLaidOut binding schema (declaration term.1 term.2)
  | closing : IsLaidOut binding schema "\x7d"

theorem isLaidOut_of_mem {line : String} (member : line ∈ layout binding schema) :
    IsLaidOut binding schema line := by
  rcases List.mem_append.mp member with member | last
  · rcases List.mem_append.mp member with first | later
    · exact .heading first
    · obtain ⟨term, known, own⟩ := List.mem_flatMap.mp later
      rcases List.mem_append.mp own with before | declared
      · rcases List.mem_cons.mp before with rfl | comment
        · exact .blank
        · obtain ⟨text, documented, rfl⟩ := mem_comments comment
          exact .comment documented
      · rw [List.mem_singleton.mp declared]
        exact .constant known
  · rw [List.mem_singleton.mp last]
    exact .closing

theorem lineFeed_not_mem_append {first second : String} (own : '\n' ∉ first.toList)
    (later : '\n' ∉ second.toList) : '\n' ∉ (first ++ second).toList := by
  rw [String.toList_append, List.mem_append, not_or]
  exact ⟨own, later⟩

theorem lineFeed_not_mem_heading (keyed : '\n' ∉ binding.documentKey.toList)
    (typed : '\n' ∉ binding.typeName.toList) : ∀ line ∈ heading binding, '\n' ∉ line.toList := by
  intro line member
  simp only [heading, List.mem_cons, List.not_mem_nil, or_false] at member
  rcases member with rfl | rfl | rfl | rfl | rfl | rfl | rfl | rfl
  · exact lineFeed_not_mem_append (lineFeed_not_mem_append (by decide) keyed) (by decide)
  · decide
  · exact lineFeed_not_mem_append (lineFeed_not_mem_append (by decide) typed) (by decide)
  · exact lineFeed_not_mem_append (lineFeed_not_mem_append (by decide) keyed) (by decide)
  · exact lineFeed_not_mem_declaration (isInline_of_mem_reservedNames (by decide)) _
  · decide
  · decide
  · exact lineFeed_not_mem_declaration (isInline_of_mem_reservedNames (by decide)) _

theorem lineFeed_not_mem_layout (peaceful : IsPeaceful binding.prefixUri schema)
    (keyed : '\n' ∉ binding.documentKey.toList) (typed : '\n' ∉ binding.typeName.toList) :
    ∀ line ∈ layout binding schema, '\n' ∉ line.toList := by
  intro line member
  cases isLaidOut_of_mem member with
  | heading first => exact lineFeed_not_mem_heading keyed typed line first
  | blank => decide
  | comment documented =>
    exact lineFeed_not_mem_append (by decide) (lineFeed_not_mem_documentation documented)
  | constant known => exact lineFeed_not_mem_declaration (isInline_of_mem_terms peaceful known) _
  | closing => decide

end TermBind.Artifact

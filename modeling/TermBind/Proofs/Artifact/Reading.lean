import Mathlib.Data.List.Basic
import TermBind.Proofs.Artifact.Layout

/-! What generated text says when it is read line by line: its constants with their values, the
comments before them, and nothing else. -/
namespace TermBind.Artifact

variable {binding : Binding} {schema : Document}

/-- What a string literal stands for that is followed by a semicolon and nothing else. -/
def literalOf? : List Char → Option String
  | '"' :: rest =>
    match Source.Quotation.body? .text .plain [] [] rest with
    | some ((_, [';']), value) => some (String.ofList value.reverse)
    | _ => none
  | _ => none

/-- The constant that a line declares, with the value of its string literal. -/
def constant? (line : String) : Option (String × String) := do
  let declared ← "    pub const ".toList.isPrefixOf? line.toList
  let name := declared.takeWhile (· ≠ ':')
  let literal ← ": &'static str = ".toList.isPrefixOf? (declared.drop name.length)
  return (String.ofList name, ← literalOf? literal)

theorem isPrefixOf?_append (mark rest : List Char) : mark.isPrefixOf? (mark ++ rest) = some rest := by
  induction mark with
  | nil => rfl
  | cons c mark ih => simp [List.isPrefixOf?, ih]

theorem literalOf?_encode (value : String) :
    literalOf? ((Quoted.encode value).toList ++ [';']) = some value := by
  obtain ⟨taken, read⟩ := Source.Quotation.body?_encode value.toList [] [] [';']
  rw [List.append_nil] at read
  rw [Quoted.encode, String.toList_ofList, List.cons_append, List.cons_append, List.append_assoc,
    literalOf?]
  dsimp only [List.singleton_append]
  rw [read]
  simp

theorem constant?_declaration {name : String} (inline : ∀ c ∈ name.toList, Unicode.IsInline c)
    (value : String) : constant? (declaration name value) = some (name, value) := by
  have named : (name.toList ++ (": &'static str = ".toList ++
      ((Quoted.encode value).toList ++ [';']))).takeWhile (· ≠ ':') = name.toList := by
    rw [List.takeWhile_append_of_pos fun c member => by simpa using (inline c member).1]
    exact List.append_nil _
  rw [constant?, toList_declaration, isPrefixOf?_append]
  simp only [Option.bind_eq_bind, Option.bind_some, named, List.drop_left, isPrefixOf?_append,
    literalOf?_encode, String.ofList_toList]
  rfl

theorem constant?_reserved {name : String} (member : name ∈ reservedNames) (value : String) :
    constant? (declaration name value) = some (name, value) :=
  constant?_declaration (isInline_of_mem_reservedNames member) value

/-- A line that begins unlike a declaration declares nothing. -/
theorem constant?_append {mark : String}
    (apart : ∀ rest, "    pub const ".toList.isPrefixOf? (mark.toList ++ rest) = none)
    (text : String) : constant? (mark ++ text) = none := by
  rw [constant?, String.toList_append, apart]
  rfl

theorem constant?_comment (text : String) : constant? ("    /// " ++ text) = none :=
  constant?_append (fun _ => rfl) text

theorem filterMap_heading (binding : Binding) : (heading binding).filterMap constant? =
    [("PREFIX", binding.prefixLabel), ("PREFIX_URI", binding.prefixUri)] := by
  have first : constant? ("// @generated by ttlgen from " ++ binding.documentKey ++ ". Do not edit.") =
      none := by
    rw [String.append_assoc]
    exact constant?_append (fun _ => rfl) _
  have opening : constant? ("impl " ++ binding.typeName ++ " \x7b") = none := by
    rw [String.append_assoc]
    exact constant?_append (fun _ => rfl) _
  have label : constant? ("    /// Preferred prefix for terms of `" ++ binding.documentKey ++ "`") =
      none := by
    rw [String.append_assoc]
    exact constant?_append (fun _ => rfl) _
  have shared : constant? "    /// Namespace shared by the terms below" = none := rfl
  have blank : constant? "" = none := rfl
  simp only [heading, List.filterMap_cons, List.filterMap_nil, first, blank, opening, label, shared,
    constant?_reserved (show "PREFIX" ∈ reservedNames by decide),
    constant?_reserved (show "PREFIX_URI" ∈ reservedNames by decide)]

theorem filterMap_termLines (schema : Document) {term : String × String}
    (inline : ∀ c ∈ term.1.toList, Unicode.IsInline c) :
    (termLines schema term).filterMap constant? = [term] := by
  have blank : constant? "" = none := rfl
  rw [termLines, comments]
  cases documentation? schema term.2 with
  | none => simp [blank, constant?_declaration inline]
  | some text => simp [blank, constant?_comment, constant?_declaration inline]

theorem filterMap_layout (peaceful : IsPeaceful binding.prefixUri schema) :
    (layout binding schema ++ [""]).filterMap constant? =
      ("PREFIX", binding.prefixLabel) :: ("PREFIX_URI", binding.prefixUri) ::
        terms binding.prefixUri schema := by
  have each : ((terms binding.prefixUri schema).flatMap (termLines schema)).filterMap constant? =
      terms binding.prefixUri schema := by
    have own := fun term (member : term ∈ terms binding.prefixUri schema) =>
      filterMap_termLines schema (isInline_of_mem_terms peaceful member)
    rw [List.filterMap_flatMap, List.flatMap_congr own, List.flatMap_singleton']
  have closing : ["\x7d"].filterMap constant? = [] := rfl
  have last : [""].filterMap constant? = [] := rfl
  rw [layout, List.filterMap_append, List.filterMap_append, List.filterMap_append, filterMap_heading,
    each, closing, last, List.append_nil, List.append_nil]
  rfl

/-- The lines before the constant of an IRI end with a blank one, and with one comment after it just if
the IRI is documented. -/
structure IsPreceded (schema : Document) (iri : String) (before : List String) : Prop where
  documented : IsDocumented schema iri → ∃ earlier text, before = earlier ++ ["", "    /// " ++ text]
  undocumented : ¬ IsDocumented schema iri → ∃ earlier, before = earlier ++ [""]

theorem IsPreceded.append {iri : String} {before : List String} (preceded : IsPreceded schema iri before)
    (earlier : List String) : IsPreceded schema iri (earlier ++ before) where
  documented known := by
    obtain ⟨first, text, rfl⟩ := preceded.documented known
    exact ⟨earlier ++ first, text, by simp⟩
  undocumented unknown := by
    obtain ⟨first, rfl⟩ := preceded.undocumented unknown
    exact ⟨earlier ++ first, by simp⟩

theorem isPreceded_comments (schema : Document) (iri : String) :
    IsPreceded schema iri ("" :: comments schema iri) where
  documented known := by
    obtain ⟨text, found⟩ := Option.isSome_iff_exists.mp (isSome_documentation?.mpr known)
    exact ⟨[], text, by simp [comments, found]⟩
  undocumented unknown := by
    rw [← isSome_documentation?, Option.not_isSome_iff_eq_none] at unknown
    exact ⟨[], by simp [comments, unknown]⟩

/-- Among the lines of a term, the constant comes last. -/
theorem eq_of_termLines_eq {term read : String × String} {before after : List String} {line : String}
    (cut : termLines schema term = before ++ line :: after) (found : constant? line = some read) :
    before = "" :: comments schema term.2 := by
  have bare : ∀ other ∈ "" :: comments schema term.2, constant? other = none := by
    intro other member
    rcases List.mem_cons.mp member with rfl | comment
    · rfl
    · obtain ⟨text, _, rfl⟩ := mem_comments comment
      exact constant?_comment text
  rcases List.eq_nil_or_concat after with rfl | ⟨others, last, rfl⟩
  · exact (List.append_inj' cut rfl).1.symm
  · rw [List.concat_eq_append, ← List.cons_append, ← List.append_assoc] at cut
    have held := bare line (by rw [(List.append_inj' cut rfl).1]; simp)
    rw [found] at held
    cases held

theorem isPreceded_of_split {items : List (String × String)} {rest before after : List String}
    {line : String} {read : String × String}
    (inline : ∀ item ∈ items, ∀ c ∈ item.1.toList, Unicode.IsInline c)
    (bare : rest.filterMap constant? = [])
    (cut : items.flatMap (termLines schema) ++ rest = before ++ line :: after)
    (found : constant? line = some read) : IsPreceded schema read.2 before := by
  induction items generalizing before with
  | nil =>
    rw [List.flatMap_nil, List.nil_append] at cut
    simp [cut, found] at bare
  | cons item items ih =>
    have own := filterMap_termLines schema (inline item (by simp))
    rw [List.flatMap_cons, List.append_assoc, List.append_eq_append_iff] at cut
    obtain ⟨between, rfl, cut⟩ | ⟨between, whole, cut⟩ := cut
    · exact (ih (fun item member => inline item (List.mem_cons_of_mem _ member)) cut).append _
    · cases between with
      | nil =>
        rw [List.append_nil] at whole
        subst whole
        have later : IsPreceded schema read.2 [] :=
          ih (fun item member => inline item (List.mem_cons_of_mem _ member)) cut.symm
        simpa using later.append (termLines schema item)
      | cons first others =>
        obtain ⟨rfl, _⟩ := List.cons.inj cut
        have same : item = read := by
          rw [whole, List.filterMap_append, List.filterMap_cons_some found,
            List.append_eq_singleton_iff] at own
          rcases own with ⟨_, alone⟩ | ⟨_, none⟩
          · exact (List.cons.inj alone).1.symm
          · cases none
        rw [eq_of_termLines_eq whole found, ← same]
        exact isPreceded_comments schema item.2

theorem isPreceded_of_layout (peaceful : IsPeaceful binding.prefixUri schema)
    {before after : List String} {line : String} {term : String × String}
    (cut : layout binding schema ++ [""] = before ++ line :: after) (found : constant? line = some term)
    (member : term ∈ terms binding.prefixUri schema) : IsPreceded schema term.2 before := by
  rw [layout, List.append_assoc, List.append_assoc, List.append_eq_append_iff] at cut
  have later : ∀ {between : List String}, (terms binding.prefixUri schema).flatMap (termLines schema) ++
      (["\x7d"] ++ [""]) = between ++ line :: after → IsPreceded schema term.2 between := fun cut =>
    isPreceded_of_split (fun _ => isInline_of_mem_terms peaceful) rfl cut found
  obtain ⟨between, rfl, cut⟩ | ⟨between, whole, cut⟩ := cut
  · exact (later cut).append _
  · cases between with
    | nil =>
      rw [List.append_nil] at whole
      subst whole
      have own : IsPreceded schema term.2 [] := later cut.symm
      simpa using own.append (heading binding)
    | cons first others =>
      -- The constants of the heading are reserved, so none of them is a term.
      obtain ⟨rfl, _⟩ := List.cons.inj cut
      have held : term ∈ (heading binding).filterMap constant? :=
        List.mem_filterMap.mpr ⟨line, by simp [whole], found⟩
      refine absurd ?_ (not_mem_reservedNames peaceful member)
      rw [filterMap_heading] at held
      rcases List.mem_cons.mp held with rfl | held
      · exact List.mem_cons_self
      · rw [List.mem_singleton.mp held]
        exact List.mem_cons_of_mem _ List.mem_cons_self

/-- The lines of an artifact that declare nothing. -/
inductive IsOther (typeName : String) : String → Prop where
  | blank : IsOther typeName ""
  | comment {line : String} (marked : "//".toList <+: line.toList.dropWhile (· = ' ')) :
      IsOther typeName line
  | opening : IsOther typeName ("impl " ++ typeName ++ " \x7b")
  | closing : IsOther typeName "\x7d"

theorem isOther_append {typeName mark : String}
    (marked : ∀ rest, "//".toList <+: (mark.toList ++ rest).dropWhile (· = ' ')) (text : String) :
    IsOther typeName (mark ++ text) := by
  apply IsOther.comment
  rw [String.toList_append]
  exact marked text.toList

theorem isOther_comment {typeName : String} (text : String) : IsOther typeName ("    /// " ++ text) :=
  isOther_append (fun _ => ⟨_, rfl⟩) text

theorem isOther_of_heading {line : String} (member : line ∈ heading binding)
    (bare : constant? line = none) : IsOther binding.typeName line := by
  simp only [heading, List.mem_cons, List.not_mem_nil, or_false] at member
  rcases member with rfl | rfl | rfl | rfl | rfl | rfl | rfl | rfl
  · rw [String.append_assoc]
    exact isOther_append (fun _ => ⟨_, rfl⟩) _
  · exact .blank
  · exact .opening
  · rw [String.append_assoc]
    exact isOther_append (fun _ => ⟨_, rfl⟩) _
  · simp [constant?_reserved (show "PREFIX" ∈ reservedNames by decide)] at bare
  · exact .blank
  · exact isOther_comment "Namespace shared by the terms below"
  · simp [constant?_reserved (show "PREFIX_URI" ∈ reservedNames by decide)] at bare

theorem isOther_of_layout (peaceful : IsPeaceful binding.prefixUri schema) {line : String}
    (member : line ∈ layout binding schema ++ [""]) (bare : constant? line = none) :
    IsOther binding.typeName line := by
  rcases List.mem_append.mp member with member | last
  · cases isLaidOut_of_mem member with
    | heading first => exact isOther_of_heading first bare
    | blank => exact .blank
    | comment => exact isOther_comment _
    | constant known =>
      rw [constant?_declaration (isInline_of_mem_terms peaceful known)] at bare
      cases bare
    | closing => exact .closing
  · rw [List.mem_singleton.mp last]
    exact .blank

/-- Generated text declares the prefix, the prefix URI and each term of the document once, by ascending
names, with a comment before each term that is documented, and says nothing else. -/
theorem reads_generate {binding : Binding} {schema : Document} {text : String}
    (keyed : '\n' ∉ binding.documentKey.toList) (typed : '\n' ∉ binding.typeName.toList)
    (made : generate binding schema = .ok text) :
    ∃ terms : List (String × String),
      (linesOf text).filterMap constant? =
        ("PREFIX", binding.prefixLabel) :: ("PREFIX_URI", binding.prefixUri) :: terms ∧
      (terms.map Prod.fst).Pairwise (fun left right => compare left right = .lt) ∧
      (∀ name iri, (name, iri) ∈ terms ↔ iri ∈ schema.iris ∧
        ∃ below, localName? binding.prefixUri iri = some below ∧
          Constant.ofLocal? below = some name) ∧
      (((linesOf text).filterMap constant?).map Prod.fst).Nodup ∧
      (∀ before line after term, linesOf text = before ++ line :: after →
        constant? line = some term → term ∈ terms → IsPreceded schema term.2 before) ∧
      ∀ line ∈ linesOf text, constant? line = none → IsOther binding.typeName line := by
  obtain ⟨peaceful, rfl⟩ := generate_eq_ok_iff.mp made
  have lines : linesOf (header binding ++ String.join ((terms binding.prefixUri schema).map
      fun term => termText schema term.1 term.2) ++ "\x7d\n") = layout binding schema ++ [""] := by
    rw [← textOf_layout, linesOf_textOf (lineFeed_not_mem_layout peaceful keyed typed)]
  have constants : (layout binding schema ++ [""]).filterMap constant? = _ := filterMap_layout peaceful
  rw [lines]
  refine ⟨terms binding.prefixUri schema, constants, pairwise_terms, fun name iri => ?_, ?_,
    fun before line after term cut found member => isPreceded_of_layout peaceful cut found member,
    fun line => isOther_of_layout peaceful⟩
  · rw [mem_terms peaceful, constantOf?, Option.bind_eq_some_iff]
  · have apart : ∀ name ∈ (terms binding.prefixUri schema).map Prod.fst, name ∉ reservedNames := by
      intro name listed
      obtain ⟨term, member, rfl⟩ := List.mem_map.mp listed
      exact not_mem_reservedNames peaceful member
    have different : reservedNames.Nodup := by decide
    rw [constants]
    exact List.nodup_append.mpr ⟨different, Collection.nodup_of_pairwise_lt pairwise_terms,
      fun own reserved name listed same => apart name listed (same ▸ reserved)⟩

def personBinding : Binding where
  documentKey := "person.ttl"
  scope := "crate::model"
  typeName := "Person"
  prefixLabel := "ex"
  prefixUri := "http://example.org/"

/-- A class with a comment on two lines, and its only property. -/
def personSchema : Document := .ofTriples "person.ttl"
  [⟨.iri "http://example.org/Person", commentIri, .literal "A human\n  being." "" none⟩,
    ⟨.iri "http://example.org/Person", "http://example.org/givenName", .blank "b"⟩]

def personText : String :=
  "// @generated by ttlgen from person.ttl. Do not edit.\n\nimpl Person \x7b\n" ++
    "    /// Preferred prefix for terms of `person.ttl`\n" ++
    "    pub const PREFIX: &'static str = \"ex\";\n\n" ++
    "    /// Namespace shared by the terms below\n" ++
    "    pub const PREFIX_URI: &'static str = \"http://example.org/\";\n\n" ++
    "    pub const GIVEN_NAME: &'static str = \"http://example.org/givenName\";\n\n" ++
    "    /// A human being.\n" ++
    "    pub const PERSON: &'static str = \"http://example.org/Person\";\n\x7d\n"

theorem reads_generate_person :
    '\n' ∉ personBinding.documentKey.toList ∧ '\n' ∉ personBinding.typeName.toList ∧
      generate personBinding personSchema = .ok personText ∧
      ∃ terms : List (String × String),
        (linesOf personText).filterMap constant? =
          ("PREFIX", "ex") :: ("PREFIX_URI", "http://example.org/") :: terms ∧
        ("PERSON", "http://example.org/Person") ∈ terms := by
  have keyed : '\n' ∉ personBinding.documentKey.toList := by decide
  have typed : '\n' ∉ personBinding.typeName.toList := by decide
  have made : generate personBinding personSchema = .ok personText := by decide +kernel
  obtain ⟨terms, constants, _, members, _⟩ := reads_generate keyed typed made
  have listed : "http://example.org/Person" ∈ personSchema.iris := by decide +kernel
  have below : localName? personBinding.prefixUri "http://example.org/Person" = some "Person" := by
    decide +kernel
  have named : Constant.ofLocal? "Person" = some "PERSON" := by decide +kernel
  exact ⟨keyed, typed, made, terms, constants, (members _ _).mpr ⟨listed, "Person", below, named⟩⟩

end TermBind.Artifact

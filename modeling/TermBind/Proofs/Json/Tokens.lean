import TermBind.Json.Reader
import TermBind.Proofs.Json.Scalar

/-! The tokens of a written value: what a text is cut into is what the value is made of, whatever the
layout puts between. -/
namespace TermBind.Json

open Data

/-- The tokens of a value as it is written. -/
def tokensOf : Value → List Token
  | .natural value => [.scalar (.natural value)]
  | .text value => [.scalar (.text value)]
  | .list [] => [.beginList, .endList]
  | .list (first :: rest) => .beginList :: tokensOf first ++ tokensOfItems rest ++ [.endList]
  | .record [] => [.beginRecord, .endRecord]
  | .record ((key, value) :: rest) =>
    .beginRecord :: .scalar (.text key) :: .colon :: tokensOf value ++ tokensOfEntries rest ++
      [.endRecord]
  | .null => [.scalar .null]
  | .other => [.scalar .null]
where
  tokensOfItems : List Value → List Token
    | [] => []
    | value :: rest => .comma :: tokensOf value ++ tokensOfItems rest
  tokensOfEntries : List (String × Value) → List Token
    | [] => []
    | (key, value) :: rest =>
      .comma :: .scalar (.text key) :: .colon :: tokensOf value ++ tokensOfEntries rest

/-- A text is cut into tokens. -/
inductive Cuts : List Char → List Token → Prop where
  | done {text : List Char} (blank : text.dropWhile isBlank = []) : Cuts text []
  | next {text rest : List Char} {token : Token} {tokens : List Token}
      (filled : text.dropWhile isBlank ≠ []) (read : token? (text.dropWhile isBlank) = some (token, rest))
      (others : Cuts rest tokens) : Cuts text (token :: tokens)

namespace Cuts

variable {text rest : List Char} {token : Token} {tokens : List Token}

theorem tokensWithin_eq (cuts : Cuts text tokens) {fuel : Nat} (enough : tokens.length < fuel) :
    tokensWithin fuel text = some tokens := by
  induction cuts generalizing fuel with
  | done blank =>
    cases fuel with
    | zero => cases enough
    | succ fuel => rw [tokensWithin, blank]
  | @next text rest token tokens filled read others ih =>
    cases fuel with
    | zero => cases enough
    | succ fuel =>
      have later := ih (Nat.lt_of_succ_lt_succ enough)
      rw [tokensWithin]
      split
      · exact absurd ‹_› filled
      · rw [read]
        simp [later]

/-- Blanks before a text are no part of its tokens. -/
theorem blanks (cuts : Cuts text tokens) {blanks : List Char} (blank : ∀ c ∈ blanks, isBlank c = true) :
    Cuts (blanks ++ text) tokens := by
  have dropped : (blanks ++ text).dropWhile isBlank = text.dropWhile isBlank :=
    List.dropWhile_append_of_pos blank
  cases cuts with
  | done none => exact .done (by rw [dropped, none])
  | next filled read others => exact .next (by rwa [dropped]) (by rwa [dropped]) others

/-- A token that no blank stands before. -/
theorem cons (others : Cuts rest tokens) (begins : ∀ c ∈ text.head?, isBlank c = false)
    (read : token? text = some (token, rest)) : Cuts text (token :: tokens) := by
  have kept : text.dropWhile isBlank = text := by
    cases text with
    | nil => rfl
    | cons c text => exact List.dropWhile_cons_of_neg (by simp [begins c rfl])
  refine .next ?_ (by rwa [kept]) others
  rw [kept]
  rintro rfl
  cases read

/-- A token of one character. -/
theorem mark (others : Cuts rest tokens) (c : Char) (read : token? (c :: rest) = some (token, rest))
    (shown : isBlank c = false) : Cuts (c :: rest) (token :: tokens) :=
  others.cons (by rintro _ ⟨⟩; exact shown) read

theorem quoted (others : Cuts rest tokens) (value : String) :
    Cuts (Json.quoted value ++ rest) (.scalar (.text value) :: tokens) :=
  others.cons (by rintro _ ⟨⟩; rfl) (token?_quoted value rest)

theorem natural (others : Cuts rest tokens) (ends : EndsNumber rest) (value : Nat) :
    Cuts (Nat.toDigits 10 value ++ rest) (.scalar (.natural value) :: tokens) := by
  refine others.cons ?_ (token?_toDigits value ends)
  have own : ∀ c ∈ Nat.toDigits 10 value, c.isDigit = true := fun c member =>
    Nat.isDigit_of_mem_toDigits (by decide) (by decide) member
  have some : Nat.toDigits 10 value ≠ [] := Nat.toDigits_ne_nil
  intro c first
  cases number : Nat.toDigits 10 value with
  | nil => exact absurd number some
  | cons head others =>
    rw [number] at first own
    cases first
    have digit := own c (by simp)
    rw [Bool.eq_false_iff]
    intro blank
    simp only [isBlank, Bool.or_eq_true, beq_iff_eq] at blank
    rcases blank with ((rfl | rfl) | rfl) | rfl <;> cases digit

end Cuts

/-- A layout puts nothing but blanks between tokens. -/
structure Layout.IsSpaced (layout : Layout) : Prop where
  lineBreak : ∀ depth, ∀ c ∈ layout.lineBreak depth, isBlank c = true
  colon : ∃ blanks, layout.colon = ':' :: blanks ∧ ∀ c ∈ blanks, isBlank c = true

theorem Layout.isSpaced_compact : Layout.compact.IsSpaced := ⟨by simp [compact], [], rfl, by simp⟩

theorem Layout.isSpaced_pretty : Layout.pretty.IsSpaced := by
  refine ⟨fun depth c member => ?_, [' '], rfl, by simp [isBlank]⟩
  rcases List.mem_cons.mp member with rfl | later
  · rfl
  · rw [List.eq_of_mem_replicate later]
    rfl

theorem EndsNumber.blanks {blanks rest : List Char} (ends : EndsNumber rest)
    (blank : ∀ c ∈ blanks, isBlank c = true) : EndsNumber (blanks ++ rest) := by
  cases blanks with
  | nil => exact ends
  | cons first others =>
    rintro c ⟨⟩
    have known := blank first (by simp)
    simp only [isBlank, Bool.or_eq_true, beq_iff_eq] at known
    rcases known with ((rfl | rfl) | rfl) | rfl <;> decide

theorem endsNumber_cons {c : Char} {rest : List Char}
    (apart : c.isDigit = false ∧ c ≠ '.' ∧ c ≠ 'e' ∧ c ≠ 'E') : EndsNumber (c :: rest) := by
  rintro _ ⟨⟩
  exact apart

section Write

variable {layout : Layout}

theorem endsNumber_writeItems (items : List Value) (depth : Nat) {rest : List Char}
    (ends : EndsNumber rest) : EndsNumber (write.writeItems layout depth items ++ rest) := by
  cases items with
  | nil => exact ends
  | cons => exact endsNumber_cons (by decide)

theorem endsNumber_writeEntries (entries : List (String × Value)) (depth : Nat) {rest : List Char}
    (ends : EndsNumber rest) : EndsNumber (write.writeEntries layout depth entries ++ rest) := by
  cases entries with
  | nil => exact ends
  | cons => exact endsNumber_cons (by decide)

variable (spaced : layout.IsSpaced)
include spaced

theorem cuts_colon {rest : List Char} {tokens : List Token} (others : Cuts rest tokens) :
    Cuts (layout.colon ++ rest) (.colon :: tokens) := by
  obtain ⟨blanks, colon, blank⟩ := spaced.colon
  rw [colon]
  exact (others.blanks blank).mark ':' rfl rfl

/-- A bracket that closes on a line of its own. -/
theorem cuts_closing {c : Char} {token : Token} (depth : Nat) {rest : List Char} {tokens : List Token}
    (others : Cuts rest tokens) (read : token? (c :: rest) = some (token, rest))
    (shown : isBlank c = false) : Cuts (layout.lineBreak depth ++ c :: rest) (token :: tokens) :=
  (others.mark c read shown).blanks (spaced.lineBreak depth)

mutual

/-- A written value is cut into its tokens. -/
theorem cuts_write (value : Value) (depth : Nat) {rest : List Char} {tokens : List Token}
    (others : Cuts rest tokens) (ends : EndsNumber rest) :
    Cuts (write layout depth value ++ rest) (tokensOf value ++ tokens) := by
  match value with
  | .natural value =>
    rw [write, tokensOf]
    exact others.natural ends value
  | .text value =>
    rw [write, tokensOf]
    exact others.quoted value
  | .list [] =>
    rw [write, tokensOf]
    exact (others.mark ']' rfl rfl).mark '[' rfl rfl
  | .list (first :: items) =>
    have closing : Cuts (layout.lineBreak depth ++ ']' :: rest) (.endList :: tokens) :=
      cuts_closing spaced depth others rfl rfl
    have closes : EndsNumber (layout.lineBreak depth ++ ']' :: rest) :=
      (endsNumber_cons (by decide)).blanks (spaced.lineBreak depth)
    have later := cuts_writeItems items (depth + 1) closing closes
    have own := cuts_write first (depth + 1) later (endsNumber_writeItems items (depth + 1) closes)
    have whole := (own.blanks (spaced.lineBreak (depth + 1))).mark '[' rfl rfl
    simpa [write, tokensOf] using whole
  | .record [] =>
    rw [write, tokensOf]
    exact (others.mark '\x7d' rfl rfl).mark '\x7b' rfl rfl
  | .record ((key, first) :: entries) =>
    have closing : Cuts (layout.lineBreak depth ++ '\x7d' :: rest) (.endRecord :: tokens) :=
      cuts_closing spaced depth others rfl rfl
    have closes : EndsNumber (layout.lineBreak depth ++ '\x7d' :: rest) :=
      (endsNumber_cons (by decide)).blanks (spaced.lineBreak depth)
    have later := cuts_writeEntries entries (depth + 1) closing closes
    have own := cuts_write first (depth + 1) later (endsNumber_writeEntries entries (depth + 1) closes)
    have keyed := (cuts_colon spaced own).quoted key
    have whole := (keyed.blanks (spaced.lineBreak (depth + 1))).mark '\x7b' rfl rfl
    simpa [write, tokensOf] using whole
  | .null =>
    rw [write, tokensOf]
    exact others.cons (by rintro _ ⟨⟩; rfl) rfl
  | .other =>
    rw [write, tokensOf]
    exact others.cons (by rintro _ ⟨⟩; rfl) rfl

theorem cuts_writeItems (items : List Value) (depth : Nat) {rest : List Char} {tokens : List Token}
    (others : Cuts rest tokens) (ends : EndsNumber rest) :
    Cuts (write.writeItems layout depth items ++ rest) (tokensOf.tokensOfItems items ++ tokens) := by
  match items with
  | [] =>
    rw [write.writeItems, tokensOf.tokensOfItems]
    exact others
  | value :: items =>
    have later := cuts_writeItems items depth others ends
    have own := cuts_write value depth later (endsNumber_writeItems items depth ends)
    have whole := (own.blanks (spaced.lineBreak depth)).mark ',' rfl rfl
    simpa [write.writeItems, tokensOf.tokensOfItems] using whole

theorem cuts_writeEntries (entries : List (String × Value)) (depth : Nat) {rest : List Char}
    {tokens : List Token} (others : Cuts rest tokens) (ends : EndsNumber rest) :
    Cuts (write.writeEntries layout depth entries ++ rest)
      (tokensOf.tokensOfEntries entries ++ tokens) := by
  match entries with
  | [] =>
    rw [write.writeEntries, tokensOf.tokensOfEntries]
    exact others
  | (key, value) :: entries =>
    have later := cuts_writeEntries entries depth others ends
    have own := cuts_write value depth later (endsNumber_writeEntries entries depth ends)
    have keyed := (cuts_colon spaced own).quoted key
    have whole := (keyed.blanks (spaced.lineBreak depth)).mark ',' rfl rfl
    simpa [write.writeEntries, tokensOf.tokensOfEntries] using whole

end

end Write

section Length

variable {layout : Layout}

mutual

theorem length_tokensOf_le (spaced : layout.IsSpaced) (value : Value) (depth : Nat) :
    (tokensOf value).length ≤ (write layout depth value).length := by
  match value with
  | .natural value =>
    rw [tokensOf, write]
    exact Nat.length_toDigits_pos
  | .text value => simp [tokensOf, write, quoted]
  | .list [] => simp [tokensOf, write]
  | .list (first :: items) =>
    have own := length_tokensOf_le spaced first (depth + 1)
    have later := length_tokensOfItems_le spaced items (depth + 1)
    simp only [tokensOf, write, List.length_cons, List.length_append]
    omega
  | .record [] => simp [tokensOf, write]
  | .record ((key, first) :: entries) =>
    have own := length_tokensOf_le spaced first (depth + 1)
    have later := length_tokensOfEntries_le spaced entries (depth + 1)
    obtain ⟨blanks, colon, _⟩ := spaced.colon
    simp only [tokensOf, write, quoted, colon, List.length_cons, List.length_append]
    omega
  | .null => simp [tokensOf, write]
  | .other => simp [tokensOf, write]

theorem length_tokensOfItems_le (spaced : layout.IsSpaced) (items : List Value) (depth : Nat) :
    (tokensOf.tokensOfItems items).length ≤ (write.writeItems layout depth items).length := by
  match items with
  | [] => simp [tokensOf.tokensOfItems, write.writeItems]
  | value :: items =>
    have own := length_tokensOf_le spaced value depth
    have later := length_tokensOfItems_le spaced items depth
    simp only [tokensOf.tokensOfItems, write.writeItems, List.length_cons, List.length_append]
    omega

theorem length_tokensOfEntries_le (spaced : layout.IsSpaced) (entries : List (String × Value))
    (depth : Nat) :
    (tokensOf.tokensOfEntries entries).length ≤ (write.writeEntries layout depth entries).length := by
  match entries with
  | [] => simp [tokensOf.tokensOfEntries, write.writeEntries]
  | (key, value) :: entries =>
    have own := length_tokensOf_le spaced value depth
    have later := length_tokensOfEntries_le spaced entries depth
    obtain ⟨blanks, colon, _⟩ := spaced.colon
    simp only [tokensOf.tokensOfEntries, write.writeEntries, quoted, colon, List.length_cons,
      List.length_append]
    omega

end

/-- The tokens of a written value are those that the value is made of. -/
theorem tokens?_write (spaced : layout.IsSpaced) (value : Value) :
    tokens? (write layout 0 value) = some (tokensOf value) := by
  have cuts := cuts_write spaced value 0 (Cuts.done rfl : Cuts [] []) (by rintro _ ⟨⟩)
  rw [List.append_nil, List.append_nil] at cuts
  exact cuts.tokensWithin_eq (Nat.lt_succ_of_le (length_tokensOf_le spaced value 0))

end Length

end TermBind.Json

import VehicleShow.Json.Printer
import VehicleShow.Proofs.Json.Documents

/-! # What the printer writes

Both texts of a value, the pretty one and the compact one, are documents of it, as long as its
numbers are literals.  Strings may hold any characters; numbers made from words are always
literals. -/
set_option autoImplicit false
namespace VehicleShow

namespace Json

/-! ## Joining written texts -/

theorem Written.after_blank {tokens : List Token} {gap text : List Char} (blank : Blank gap)
    (written : Written tokens text) : Written tokens (gap ++ text) := by
  cases written with
  | nil blankText =>
      exact .nil fun c member => (List.mem_append.mp member).elim (blank c) (blankText c)
  | cons blankText first others =>
      rw [List.append_assoc, ← List.append_assoc, ← List.append_assoc]
      refine .cons ?_ first others
      exact fun c member => (List.mem_append.mp member).elim (blank c) (blankText c)

theorem Written.append {first second : List Token} {text rest : List Char}
    (written : Written first text) (others : Written second rest) :
    Written (first ++ second) (text ++ rest) := by
  induction written with
  | nil blank => exact others.after_blank blank
  | cons blank token _ ih =>
      rw [List.append_assoc]
      exact .cons blank token ih

theorem blank_nil : Blank [] := by simp [Blank]

theorem written_cons {token : Token} {tokens : List Token} {text rest : List Char}
    (first : TokenText token text) (others : Written tokens rest) :
    Written (token :: tokens) (text ++ rest) :=
  .cons blank_nil first others

theorem written_token {token : Token} {text : List Char} (first : TokenText token text) :
    Written [token] text := by
  have written := written_cons first (.nil blank_nil)
  rwa [List.append_nil] at written

/-! ## Strings -/

theorem unitText_of_control {n : Nat} (control : n < 0x20) :
    UnitText n ['0', '0', hexChar (n / 16), hexChar (n % 16)] := by
  have each : ∀ n < 0x20, hexUnit? '0' '0' (hexChar (n / 16)) (hexChar (n % 16)) = some n := by
    decide
  exact .mk (each n control)

theorem charText_escape (c : Char) : CharText c (escape c) := by
  rw [escape.eq_def]
  split
  · exact .letter (by decide)
  · exact .letter (by decide)
  · exact .letter (by decide)
  · exact .letter (by decide)
  · exact .letter (by decide)
  · exact .letter (by decide)
  · exact .letter (by decide)
  · next noQuote noBackslash _ _ _ _ _ =>
    split
    · next control => exact .unit (unitText_of_control control)
    · next printable => exact .plain noQuote noBackslash (Nat.le_of_not_lt printable)

theorem charsText_escaped (cs : List Char) : CharsText cs (cs.flatMap escape) := by
  induction cs with
  | nil => exact .nil
  | cons c cs ih =>
      rw [List.flatMap_cons]
      exact .cons (charText_escape c) ih

theorem stringText_quoted (content : String) : StringText content (quoted content) :=
  .mk (charsText_escaped content.toList)

/-! ## Numbers -/

theorem ofNat_starts (n : Nat) :
    ∃ first rest, Digit.ofNat n = first :: rest ∧ (first.val = 0 → n = 0) := by
  induction n using Nat.strongRecOn with
  | ind n ih =>
    rw [Digit.ofNat]
    split
    · next small =>
      refine ⟨Fin.ofNat 10 n, [], rfl, fun zero => ?_⟩
      rwa [Fin.val_ofNat, Nat.mod_eq_of_lt small] at zero
    · next large =>
      obtain ⟨first, rest, starts, zero⟩ := ih (n / 10) (by omega)
      refine ⟨first, rest ++ [Fin.ofNat 10 n], by rw [starts, List.cons_append], fun isZero => ?_⟩
      have := zero isZero
      omega

theorem ofNat_ne_nil (n : Nat) : Digit.ofNat n ≠ [] := by
  obtain ⟨first, rest, starts, -⟩ := ofNat_starts n
  rw [starts]
  exact List.cons_ne_nil first rest

theorem Numeral.wellFormed_ofUInt64 (n : UInt64) : (Numeral.ofUInt64 n).WellFormed := by
  obtain ⟨first, rest, starts, zero⟩ := ofNat_starts n.toNat
  refine ⟨first, rest, starts, fun isZero => ?_⟩
  rw [zero isZero, Digit.ofNat, if_pos (by decide)] at starts
  exact (List.cons.inj starts).2.symm

theorem numeralText_text {n : Numeral} (wellFormed : n.WellFormed) : NumeralText n n.text := by
  obtain ⟨negative, whole, fraction, exponent⟩ := n
  refine .mk wellFormed ?_ ?_
  · cases fraction with
    | nil => exact .absent
    | cons d ds => exact .present (List.cons_ne_nil d ds)
  · cases exponent with
    | none => exact .absent
    | some e =>
        cases e with
        | ofNat e =>
            have text : ExponentText (some (signed false (Digit.ofNat e)))
                ('e' :: digitsText (Digit.ofNat e)) :=
              .present (.inl rfl) .absent (ofNat_ne_nil e)
            rwa [signed, Digit.value_ofNat] at text
        | negSucc e =>
            have text : ExponentText (some (signed true (Digit.ofNat (e + 1))))
                ('e' :: '-' :: digitsText (Digit.ofNat (e + 1))) :=
              .present (.inl rfl) .minus (ofNat_ne_nil (e + 1))
            rwa [signed, Digit.value_ofNat] at text

/-! ## Values -/

theorem blank_newline (level : Nat) : Blank (newline level) := by
  intro c member
  rcases List.mem_cons.mp member with rfl | space
  · rfl
  · rw [List.eq_of_mem_replicate space]
    rfl

theorem tokenText_boolText (value : Bool) : TokenText (.bool value) (boolText value) := by
  cases value
  · exact .false
  · exact .true

theorem written_prettyItems {level : Nat} {items : List Json} (some : items ≠ [])
    (each : ∀ item ∈ items, Written item.tokens (prettyText (level + 1) item)) :
    Written (itemTokens items) (prettyItems level items) := by
  induction items with
  | nil => exact absurd rfl some
  | cons item others ih =>
      have first := (each item List.mem_cons_self).after_blank (blank_newline (level + 1))
      cases others with
      | nil =>
          have close := (written_token .closeSquare).after_blank (blank_newline level)
          rw [itemTokens, prettyItems, List.append_assoc]
          exact first.append close
      | cons next others =>
          have later := ih (by simp) fun other member => each other (List.mem_cons_of_mem _ member)
          rw [itemTokens_cons, prettyItems]
          · exact first.append (written_cons .comma later)
          · simp

theorem written_member (level : Nat) (key : String) {tokens : List Token} {text : List Char}
    (written : Written tokens text) :
    Written (.str (some key) :: .colon :: tokens)
      (newline level ++ quoted key ++ ':' :: ' ' :: text) := by
  have space : Blank [' '] := by simp [Blank, isBlank]
  have value := written_cons .colon (written.after_blank space)
  exact .cons (blank_newline level) (.str (stringText_quoted key)) value

theorem written_prettyMembers {level : Nat} {members : List (String × Json)} (some : members ≠ [])
    (each : ∀ member ∈ members, Written member.2.tokens (prettyText (level + 1) member.2)) :
    Written (memberTokens members) (prettyMembers level members) := by
  induction members with
  | nil => exact absurd rfl some
  | cons member others ih =>
      obtain ⟨key, value⟩ := member
      have first := each (key, value) List.mem_cons_self
      cases others with
      | nil =>
          have close := (written_token .closeCurly).after_blank (blank_newline level)
          have whole := written_member (level + 1) key (first.append close)
          rw [memberTokens_singleton, prettyMembers]
          simpa using whole
      | cons next others =>
          have later := ih (by simp) fun other member => each other (List.mem_cons_of_mem _ member)
          have whole := written_member (level + 1) key (first.append (written_cons .comma later))
          rw [memberTokens_cons, prettyMembers]
          · simpa using whole
          · simp

theorem written_prettyText {depth : Nat} {json : Json} (literal : json.Within Numeral.WellFormed depth)
    (level : Nat) : Written json.tokens (prettyText level json) := by
  induction json using Json.induct generalizing depth level with
  | null => exact written_token .null
  | bool value => exact written_token (tokenText_boolText value)
  | num n => exact written_token (.num (numeralText_text (within_num.mp literal)))
  | str content => exact written_token (.str (stringText_quoted content))
  | arr items ih =>
      cases depth with
      | zero => exact literal.elim
      | succ depth =>
          cases items with
          | nil => exact written_cons .openSquare (written_token .closeSquare)
          | cons item others =>
              exact written_cons .openSquare (written_prettyItems (by simp) fun each member =>
                ih each member (literal each member) (level + 1))
  | obj members ih =>
      cases depth with
      | zero => exact literal.elim
      | succ depth =>
          cases members with
          | nil => exact written_cons .openCurly (written_token .closeCurly)
          | cons member others =>
              exact written_cons .openCurly (written_prettyMembers (by simp) fun each isMember =>
                ih each isMember (literal each isMember) (level + 1))

/-! ## Values without blanks -/

theorem written_compactItems {items : List Json}
    (each : ∀ item ∈ items, Written item.tokens (compactText item)) :
    Written (itemTokens items) (compactItems items) := by
  induction items with
  | nil => exact written_token .closeSquare
  | cons item others ih =>
      have first := each item List.mem_cons_self
      cases others with
      | nil =>
          rw [itemTokens, compactItems]
          exact first.append (written_token .closeSquare)
      | cons next others =>
          have later := ih fun other member => each other (List.mem_cons_of_mem _ member)
          rw [itemTokens_cons, compactItems]
          · exact first.append (written_cons .comma later)
          · simp

theorem written_compactMember (key : String) {tokens : List Token} {text : List Char}
    (written : Written tokens text) :
    Written (.str (some key) :: .colon :: tokens) (quoted key ++ ':' :: text) :=
  written_cons (.str (stringText_quoted key)) (written_cons .colon written)

theorem written_compactMembers {members : List (String × Json)}
    (each : ∀ member ∈ members, Written member.2.tokens (compactText member.2)) :
    Written (memberTokens members) (compactMembers members) := by
  induction members with
  | nil => exact written_token .closeCurly
  | cons member others ih =>
      obtain ⟨key, value⟩ := member
      have first := each (key, value) List.mem_cons_self
      cases others with
      | nil =>
          have whole := written_compactMember key (first.append (written_token .closeCurly))
          rw [memberTokens_singleton, compactMembers]
          simpa using whole
      | cons next others =>
          have later := ih fun other member => each other (List.mem_cons_of_mem _ member)
          have whole := written_compactMember key (first.append (written_cons .comma later))
          rw [memberTokens_cons, compactMembers]
          · simpa using whole
          · simp

theorem written_compactText {depth : Nat} {json : Json}
    (literal : json.Within Numeral.WellFormed depth) : Written json.tokens (compactText json) := by
  induction json using Json.induct generalizing depth with
  | null => exact written_token .null
  | bool value => exact written_token (tokenText_boolText value)
  | num n => exact written_token (.num (numeralText_text (within_num.mp literal)))
  | str content => exact written_token (.str (stringText_quoted content))
  | arr items ih =>
      cases depth with
      | zero => exact literal.elim
      | succ depth =>
          exact written_cons .openSquare (written_compactItems fun each member =>
            ih each member (literal each member))
  | obj members ih =>
      cases depth with
      | zero => exact literal.elim
      | succ depth =>
          exact written_cons .openCurly (written_compactMembers fun each isMember =>
            ih each isMember (literal each isMember))

end Json

theorem document_pretty {depth : Nat} {json : Json}
    (literal : json.Within Json.Numeral.WellFormed depth) : Document json json.pretty := by
  rw [Document, Json.pretty, String.toList_ofList]
  exact Json.written_prettyText literal 0

theorem document_compact {depth : Nat} {json : Json}
    (literal : json.Within Json.Numeral.WellFormed depth) : Document json json.compact := by
  rw [Document, Json.compact, String.toList_ofList]
  exact Json.written_compactText literal

end VehicleShow

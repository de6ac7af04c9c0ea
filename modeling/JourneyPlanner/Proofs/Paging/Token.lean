import Mathlib.Data.List.TakeWhile
import JourneyPlanner.Continuation
import JourneyPlanner.Proofs.Json.Codecs
import JourneyPlanner.Provider.Basic

set_option autoImplicit false

/-!
A continuation is read from its token as it was, whatever names and payloads it holds. The
characters of a token may stand in an address, and none of them is white space.
-/
namespace JourneyPlanner

open Record (required_reads defaulted_present)

namespace Text

theorem dropWhile_of_shown {cs : List Char} (shown : ∀ c ∈ cs, isBlank c = false) :
    cs.dropWhile isBlank = cs := by
  rw [List.dropWhile_eq_self_iff]
  intro inside
  exact Bool.eq_false_iff.mp (shown _ (List.getElem_mem inside))

/-- White space goes up to the first other character, from both ends. -/
theorem trimChars_surrounded {before shown after : List Char}
    (blankBefore : ∀ c ∈ before, isBlank c = true) (blankAfter : ∀ c ∈ after, isBlank c = true)
    (visible : ∀ c ∈ shown, isBlank c = false) : trimChars (before ++ shown ++ after) = shown := by
  rw [trimChars, List.append_assoc, List.dropWhile_append_of_pos blankBefore]
  cases shown with
  | nil =>
    have gone : after.dropWhile isBlank = [] := List.dropWhile_eq_nil_iff.mpr blankAfter
    rw [List.nil_append, gone]
    rfl
  | cons c cs =>
    have start : isBlank c = false := visible c List.mem_cons_self
    have back : ∀ d ∈ (c :: cs).reverse, isBlank d = false := fun d mem =>
      visible d (List.mem_reverse.mp mem)
    rw [List.cons_append, List.dropWhile_cons_of_neg (Bool.eq_false_iff.mp start),
      ← List.cons_append, List.reverse_append, List.dropWhile_append_of_pos fun d mem =>
        blankAfter d (List.mem_reverse.mp mem), dropWhile_of_shown back, List.reverse_reverse]

end Text

namespace Base64Url

/-- A letter without a mark, a digit, a dash or an underscore. -/
def IsSymbol (c : Char) : Prop :=
  ('A' ≤ c ∧ c ≤ 'Z') ∨ ('a' ≤ c ∧ c ≤ 'z') ∨ ('0' ≤ c ∧ c ≤ '9') ∨ c = '-' ∨ c = '_'

instance (c : Char) : Decidable (IsSymbol c) := inferInstanceAs (Decidable (_ ∨ _))

/-- Beyond six bits the last symbol is repeated. -/
theorem exists_lt_symbol (n : Nat) : ∃ m < 64, symbol n = symbol m := by
  by_cases small : n < 64
  · exact ⟨n, small, rfl⟩
  · refine ⟨63, by decide, ?_⟩
    unfold symbol
    rw [if_neg (by omega), if_neg (by omega), if_neg (by omega), if_neg (by omega)]
    rfl

theorem symbol_shown (n : Nat) : IsSymbol (symbol n) ∧ Text.isBlank (symbol n) = false := by
  have all : ∀ m ∈ List.range 64, IsSymbol (symbol m) ∧ Text.isBlank (symbol m) = false := by
    decide
  obtain ⟨m, small, same⟩ := exists_lt_symbol n
  rw [same]
  exact all m (List.mem_range.mpr small)

/-- By the groups in which bytes are written. -/
theorem exists_symbol_of_mem_write {bytes : List UInt8} {c : Char} (mem : c ∈ write bytes) :
    ∃ n, c = symbol n := by
  fun_induction write bytes with
  | case1 a b d rest n ih =>
    simp only [List.mem_cons] at mem
    rcases mem with same | same | same | same | later
    · exact ⟨_, same⟩
    · exact ⟨_, same⟩
    · exact ⟨_, same⟩
    · exact ⟨_, same⟩
    · exact ih later
  | case2 a b n =>
    simp only [List.mem_cons, List.not_mem_nil, or_false] at mem
    rcases mem with same | same | same
    · exact ⟨_, same⟩
    · exact ⟨_, same⟩
    · exact ⟨_, same⟩
  | case3 a n =>
    simp only [List.mem_cons, List.not_mem_nil, or_false] at mem
    rcases mem with same | same
    · exact ⟨_, same⟩
    · exact ⟨_, same⟩
  | case4 => cases mem

theorem shown_of_mem_write {bytes : List UInt8} {c : Char} (mem : c ∈ write bytes) :
    IsSymbol c ∧ Text.isBlank c = false := by
  obtain ⟨n, rfl⟩ := exists_symbol_of_mem_write mem
  exact symbol_shown n

end Base64Url

section Bytes

/-- The bytes of an array one by one, after those that were taken before, the last one first. -/
theorem toList_loop (bytes : ByteArray) (i : Nat) (taken : List UInt8) :
    ByteArray.toList.loop bytes i taken = taken.reverse ++ bytes.data.toList.drop i := by
  fun_induction ByteArray.toList.loop bytes i taken with
  | case1 i taken inside ih =>
    have next : bytes.data.toList.drop i = bytes.get! i :: bytes.data.toList.drop (i + 1) := by
      have here : i < bytes.data.toList.length := inside
      have read : bytes.get! i = bytes.data.toList[i] := getElem!_pos bytes.data i inside
      rw [List.drop_eq_getElem_cons here, read]
    rw [ih, next, List.reverse_cons, List.append_assoc, List.singleton_append]
  | case2 i taken outside =>
    rw [List.drop_of_length_le (Nat.le_of_not_lt outside), List.append_nil]

theorem toArray_toList (bytes : ByteArray) : ByteArray.mk bytes.toList.toArray = bytes := by
  rw [ByteArray.toList, toList_loop, List.reverse_nil, List.nil_append, List.drop_zero,
    Array.toArray_toList]

theorem fromUTF8?_toUTF8 (text : String) : String.fromUTF8? text.toUTF8 = some text := by
  rw [String.fromUTF8?, String.toUTF8_eq_toByteArray, dif_pos text.isValidUTF8]
  rfl

end Bytes

theorem decodeBytes_toUTF8 {α : Type} [Codec α] (text : String) :
    decodeBytes α (ByteArray.mk text.toUTF8.toList.toArray) = decodeText α text := by
  rw [toArray_toList, decodeBytes, Json.textOfBytes, fromUTF8?_toUTF8]

instance : Faithful NetworkId := ⟨fun _ => rfl, fun _ => rfl⟩

namespace Continuation

/-- The fields of a continuation as they are written. -/
def formFields (c : Continuation) : List (String × Json) :=
  [("network", encode c.network), ("earlier", encode c.earlier), ("later", encode c.later)] ++
    Json.present "payload" c.payload

instance : Faithful Continuation where
  exact c := by
    change Json.fieldsExact c.formFields = true
    simp only [formFields, Json.fieldsExact_append, Json.fieldsExact, Json.fieldsExact_present,
      Faithful.exact, Bool.and_self]
  decode_encode c := by
    have network : (Record.required "network").Reads c.formFields c.network :=
      required_reads (by simp [formFields, Json.filter_present])
    have earlier : (Record.required "earlier").Reads c.formFields c.earlier :=
      required_reads (by simp [formFields, Json.filter_present])
    have later : (Record.required "later").Reads c.formFields c.later :=
      required_reads (by simp [formFields, Json.filter_present])
    have payload : (Record.defaulted "payload" none).Reads c.formFields c.payload :=
      defaulted_present (by simp [formFields, Json.filter_present])
    exact ((((network.map mk).seq earlier).seq later).seq payload).decode

theorem ofToken_token (c : Continuation) {before after : String}
    (blankBefore : Text.isBlankText before = true) (blankAfter : Text.isBlankText after = true) :
    ofToken (before ++ c.token ++ after) = .ok c := by
  have read : Text.trimChars (before ++ c.token ++ after).toList = c.tokenChars := by
    rw [String.toList_append, String.toList_append, token, String.toList_ofList]
    exact Text.trimChars_surrounded (List.all_eq_true.mp blankBefore)
      (List.all_eq_true.mp blankAfter) fun d mem => (Base64Url.shown_of_mem_write mem).2
  rw [ofToken, read, tokenChars, Base64Url.read?_write]
  simp only [decodeBytes_toUTF8, encodeText, decodeText_encode]
  rfl

/-- A continuation survives its token, also with white space around it. Its token may stand in an
address, and what is read from it leads on as the continuation did. -/
theorem restored_from_token (c : Continuation) {before after : String}
    (blankBefore : Text.isBlankText before = true) (blankAfter : Text.isBlankText after = true) :
    ofToken (before ++ c.token ++ after) = .ok c ∧
      (∀ d ∈ c.token.toList, Base64Url.IsSymbol d) ∧
        ∀ (p : Provider) (later : Bool),
          (ofToken (before ++ c.token ++ after)).map (p.moreTrips · later) =
            .ok (p.moreTrips c later) := by
  have restored := ofToken_token c blankBefore blankAfter
  refine ⟨restored, fun d mem => ?_, fun p later => ?_⟩
  · rw [token, String.toList_ofList] at mem
    exact (Base64Url.shown_of_mem_write mem).1
  · rw [restored]
    rfl

/-- A continuation with quotes, control characters and marks in its payload. -/
def quoting : Continuation where
  network := ⟨"\u00fc-Bahn \"A\""⟩
  earlier := true
  later := false
  payload := some "\x7b\"first\":\"\\n\t\u20ac\"\x7d"

theorem restored_from_token_quoting :
    Text.isBlankText " \t" = true ∧ Text.isBlankText "\n" = true ∧
      ofToken (" \t" ++ quoting.token ++ "\n") = .ok quoting ∧
      (∀ d ∈ quoting.token.toList, Base64Url.IsSymbol d) ∧
        ∀ (p : Provider) (later : Bool),
          (ofToken (" \t" ++ quoting.token ++ "\n")).map (p.moreTrips · later) =
            .ok (p.moreTrips quoting later) :=
  ⟨by decide, by decide, restored_from_token quoting (by decide) (by decide)⟩

end Continuation

end JourneyPlanner

import ReportSheets.Data.Reader
import ReportSheets.Proofs.Text.Bytes
import ReportSheets.Proofs.Text.Words

namespace ReportSheets

/-- Only a line feed has its byte in its encoding. -/
theorem ten_mem_utf8EncodeChar {c : Char} (member : 10 ∈ String.utf8EncodeChar c) : c = '\n' := by
  have ten : (10 : UInt8).toNat = 10 := rfl
  rcases utf8EncodeChar_cases c with ⟨small, encoded⟩ | ⟨-, high⟩
  · rw [encoded, List.mem_singleton] at member
    have value := congrArg UInt8.toNat member
    rw [ten, Nat.toUInt8, UInt8.toNat_ofNat', Nat.mod_eq_of_lt (by omega)] at value
    rw [← Char.ofNat_toNat c, ← value]
  · exact absurd (high 10 member) (by decide)

theorem utf8EncodeChar_line_feed : String.utf8EncodeChar '\n' = [10] := by decide

theorem pieces_utf8Encode (text : List Char) :
    Text.pieces (· == (10 : UInt8)) (text.flatMap String.utf8EncodeChar) =
      (Text.pieces (· == '\n') text).map (·.flatMap String.utf8EncodeChar) := by
  induction text with
  | nil => rfl
  | cons c text ih =>
    by_cases feed : c = '\n'
    · subst feed
      simp only [List.flatMap_cons, utf8EncodeChar_line_feed, List.singleton_append, Text.pieces, ih]
      simp
    · obtain ⟨piece, more, cut⟩ := List.exists_cons_of_ne_nil (Text.pieces_ne_nil (· == '\n') text)
      have unmarked : ∀ b ∈ String.utf8EncodeChar c, (b == (10 : UInt8)) = false := by
        intro b member
        rw [beq_eq_false_iff_ne]
        rintro rfl
        exact feed (ten_mem_utf8EncodeChar member)
      rw [cut, List.map_cons] at ih
      have plain : (c == '\n') = false := beq_eq_false_iff_ne.mpr feed
      rw [List.flatMap_cons, Text.pieces_append unmarked ih]
      simp [Text.pieces, plain, cut]

namespace RawLine

theorem endedPieces_map {α β : Type} (f : List α → List β)
    (empty : ∀ piece, (f piece).isEmpty = piece.isEmpty) (pieces : List (List α)) :
    endedPieces (pieces.map f) = (endedPieces pieces).map fun (line, ended) => (f line, ended) := by
  fun_induction endedPieces pieces with
  | case1 => rfl
  | case2 last blank => simp [endedPieces, empty, blank]
  | case3 last full => simp [endedPieces, empty, full]
  | case4 piece more another ih =>
    obtain ⟨next, later, rfl⟩ := List.exists_cons_of_ne_nil another
    simpa [endedPieces] using ih

theorem ofBytes_utf8Encode (text : List Char) : ofBytes text.utf8Encode = ofText text := by
  have blank : ∀ piece : List Char,
      (piece.flatMap String.utf8EncodeChar).isEmpty = piece.isEmpty := by
    intro piece
    cases piece <;> simp
  rw [ofBytes, ofText, toList_utf8Encode, pieces_utf8Encode, endedPieces_map _ blank, List.map_map]
  apply List.map_congr_left
  rintro ⟨line, ended⟩ -
  simp only [Function.comp_apply, fromUTF8?_encoded, String.toList_ofList]

end RawLine

def plainLines (text : List Char) : List String :=
  (RawLine.endedPieces (Text.pieces (· == '\n') text)).map fun (line, ended) =>
    String.ofList (if ended then RawLine.withoutReturn line else line)

def textLines (text : String) : List String :=
  match plainLines text.toList with
  | [] => []
  | first :: rest => String.ofList (Csv.dropMark first.toList) :: rest

namespace Reader

theorem ofBytes_toUTF8 (text : String) : ofBytes text.toUTF8 = ofText text := by
  have encoded : text.toUTF8 = text.toList.utf8Encode := by
    simp [String.utf8Encode_toList]
  rw [ofBytes, ofText, encoded, RawLine.ofBytes_utf8Encode]

/-- Raw lines that follow line `number` of a text, and what a reader makes of them. -/
inductive Numbered : Nat → List RawLine → List String → Prop
  | nil (number : Nat) : Numbered number [] []
  | cons {number : Nat} {raw : List RawLine} {lines : List String} {plain line : String}
      (read : lineAt (number + 1) plain = line) (rest : Numbered (number + 1) raw lines) :
      Numbered number (.utf8 plain :: raw) (line :: lines)

/-- The reader has `ahead` before it and `behind` lines behind it; a line that it holds is ahead. -/
inductive StandsAt : Reader → Nat → List String → Prop
  | free {behind : Nat} {raw : List RawLine} {ahead : List String}
      (numbered : Numbered behind raw ahead) : StandsAt ⟨raw, false, behind⟩ behind ahead
  | held {behind : Nat} {raw : List RawLine} {ahead : List String}
      (numbered : Numbered (behind + 1) raw ahead) :
      StandsAt ⟨raw, true, behind + 1⟩ behind (startMarker :: ahead)

theorem lineAt_past_first {number : Nat} (past : 0 < number) (line : String) :
    lineAt (number + 1) line = line := by
  rw [lineAt, if_neg (by omega)]

theorem Numbered.of_past_first {number : Nat} (past : 0 < number) (lines : List String) :
    Numbered number (lines.map .utf8) lines := by
  induction lines generalizing number with
  | nil => exact .nil number
  | cons line lines ih => exact .cons (lineAt_past_first past line) (ih (Nat.succ_pos number))

theorem numbered_ofText (text : String) :
    Numbered 0 (RawLine.ofText text.toList) (textLines text) := by
  have raw : RawLine.ofText text.toList = (plainLines text.toList).map .utf8 := by
    rw [RawLine.ofText, plainLines, List.map_map]
    rfl
  rw [raw, textLines]
  cases plainLines text.toList with
  | nil => exact .nil 0
  | cons first rest => exact .cons rfl (.of_past_first Nat.one_pos rest)

theorem standsAt_ofText (text : String) : (ofText text).StandsAt 0 (textLines text) :=
  .free (numbered_ofText text)

theorem standsAt_ofBytes (text : String) : (ofBytes text.toUTF8).StandsAt 0 (textLines text) :=
  ofBytes_toUTF8 text ▸ standsAt_ofText text

end Reader

end ReportSheets

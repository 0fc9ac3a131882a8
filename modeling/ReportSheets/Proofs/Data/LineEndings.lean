import ReportSheets.Proofs.Data.Alike
import ReportSheets.Proofs.Data.Written
import ReportSheets.Proofs.Text.Words

namespace ReportSheets

open Text Written

def withReturns (text : List Char) : List Char :=
  text.flatMap fun c => if c = '\n' then ['\r', '\n'] else [c]

structure LineStyle where
  marked : Bool
  returns : Bool
  closed : Bool

namespace LineStyle

def ended (style : LineStyle) (text : List Char) : List Char :=
  let lines := if style.closed then text ++ ['\n'] else text
  if style.returns then withReturns lines else lines

def write (style : LineStyle) (text : String) : String :=
  String.ofList (if style.marked then Csv.byteOrderMark :: style.ended text.toList
    else style.ended text.toList)

end LineStyle

variable {text front rest : List Char}

theorem byLines {P : List Char → Prop} (last : ∀ text, '\n' ∉ text → P text)
    (line : ∀ front rest, '\n' ∉ front → P rest → P (front ++ '\n' :: rest)) (text : List Char) :
    P text := by
  induction length : text.length using Nat.strong_induction_on generalizing text with
  | _ length ih =>
    obtain ⟨front, rest?, unbroken, rfl⟩ := exists_joinedAt '\n' text
    cases rest? with
    | none => exact last front unbroken
    | some rest =>
      refine line front rest unbroken (ih rest.length ?_ rest rfl)
      rw [← length, joinedAt, List.length_append, List.length_cons]
      omega

theorem plainLines_unbroken (full : text ≠ []) (unbroken : '\n' ∉ text) :
    plainLines text = [String.ofList text] := by
  simp [plainLines, pieces_unmarked (beq_false_of_not_mem unbroken), RawLine.endedPieces, full]

theorem plainLines_plain (unbroken : '\n' ∉ front) (plain : '\r' ∉ front) (rest : List Char) :
    plainLines (front ++ '\n' :: rest) = String.ofList front :: plainLines rest :=
  plainLines_feed unbroken (fun last => plain (List.mem_of_getLast? last)) rest

theorem withReturns_unbroken (unbroken : '\n' ∉ text) : withReturns text = text := by
  induction text with
  | nil => rfl
  | cons c text ih =>
    obtain ⟨other, unbroken⟩ := not_or.mp (List.mem_cons.not.mp unbroken)
    have kept := ih unbroken
    rw [withReturns] at kept ⊢
    rw [List.flatMap_cons, if_neg (Ne.symm other), kept]
    rfl

theorem withReturns_cons {c : Char} (other : c ≠ '\n') (text : List Char) :
    withReturns (c :: text) = c :: withReturns text := by
  rw [withReturns, List.flatMap_cons, if_neg other]
  rfl

theorem withReturns_append (unbroken : '\n' ∉ front) (rest : List Char) :
    withReturns (front ++ '\n' :: rest) = (front ++ ['\r']) ++ '\n' :: withReturns rest := by
  have kept := withReturns_unbroken unbroken
  unfold withReturns at kept ⊢
  rw [List.flatMap_append, kept, List.flatMap_cons, if_pos rfl]
  simp

theorem plainLines_withReturns (text : List Char) :
    '\r' ∉ text → plainLines (withReturns text) = plainLines text := by
  induction text using byLines with
  | last text unbroken =>
    intro plain
    rw [withReturns_unbroken unbroken]
  | line front rest unbroken ih =>
    intro plain
    obtain ⟨plain, later⟩ := not_or.mp (List.mem_append.not.mp plain)
    rw [withReturns_append unbroken, plainLines_returnFeed unbroken,
      ih fun member => later (List.mem_cons_of_mem _ member), plainLines_plain unbroken plain]

theorem plainLines_closed (text : List Char) :
    '\r' ∉ text → text ≠ [] → text.getLast? ≠ some '\n' →
      plainLines (text ++ ['\n']) = plainLines text := by
  induction text using byLines with
  | last text unbroken =>
    intro plain full unended
    rw [plainLines_plain unbroken plain, plainLines_unbroken full unbroken]
    rfl
  | line front rest unbroken ih =>
    intro plain full unended
    obtain ⟨plain, later⟩ := not_or.mp (List.mem_append.not.mp plain)
    have more : rest ≠ [] := by
      rintro rfl
      simp at unended
    have last : rest.getLast? ≠ some '\n' := by
      intro last
      rw [List.getLast?_append, List.getLast?_cons, last] at unended
      exact unended rfl
    rw [List.append_assoc, List.cons_append, plainLines_plain unbroken plain,
      plainLines_plain unbroken plain,
      ih (fun member => later (List.mem_cons_of_mem _ member)) more last]

theorem dropMark_marked (text : List Char) : Csv.dropMark (Csv.byteOrderMark :: text) = text := by
  rw [Csv.dropMark, if_pos rfl]

theorem dropMark_of_head? (unmarked : text.head? ≠ some Csv.byteOrderMark) :
    Csv.dropMark text = text := by
  cases text with
  | nil => rfl
  | cons c text =>
    rw [Csv.dropMark, if_neg]
    rintro rfl
    exact unmarked rfl

/-- The mark stands in the first line and is dropped there, where nothing else is. -/
theorem textLines_marked (full : text ≠ []) (plain : '\r' ∉ text)
    (unmarked : text.head? ≠ some Csv.byteOrderMark) :
    textLines (String.ofList (Csv.byteOrderMark :: text)) = plainLines text ∧
      textLines (String.ofList text) = plainLines text := by
  obtain ⟨front, rest?, unbroken, rfl⟩ := exists_joinedAt '\n' text
  have apart : '\n' ∉ Csv.byteOrderMark :: front :=
    List.not_mem_cons_of_ne_of_not_mem (by decide) unbroken
  cases rest? with
  | none =>
    rw [joinedAt] at full plain unmarked ⊢
    simp only [textLines, String.toList_ofList, plainLines_unbroken (List.cons_ne_nil _ _) apart,
      plainLines_unbroken full unbroken, dropMark_marked, dropMark_of_head? unmarked, and_self]
  | some rest =>
    rw [joinedAt] at full plain unmarked ⊢
    have plain : '\r' ∉ front := fun member => plain (List.mem_append_left _ member)
    have still : '\r' ∉ Csv.byteOrderMark :: front :=
      List.not_mem_cons_of_ne_of_not_mem (by decide) plain
    have first : front.head? ≠ some Csv.byteOrderMark := by
      intro marked
      rw [List.head?_append, marked] at unmarked
      exact unmarked rfl
    rw [← List.cons_append]
    simp only [textLines, String.toList_ofList, plainLines_plain apart still,
      plainLines_plain unbroken plain, dropMark_marked, dropMark_of_head? first, and_self]

theorem LineStyle.plainLines_ended (style : LineStyle) (full : text ≠ []) (plain : '\r' ∉ text)
    (unended : style.closed = true → text.getLast? ≠ some '\n') :
    plainLines (style.ended text) = plainLines text := by
  obtain ⟨marked, returns, closed⟩ := style
  have lines : plainLines (if closed then text ++ ['\n'] else text) = plainLines text := by
    cases closed with
    | false => rfl
    | true => exact plainLines_closed text plain full (unended rfl)
  have still : '\r' ∉ (if closed then text ++ ['\n'] else text) := by
    cases closed <;> simp [plain]
  cases returns with
  | false => exact lines
  | true => exact (plainLines_withReturns _ still).trans lines

theorem LineStyle.ended_mark (style : LineStyle) (text : List Char) :
    style.ended (Csv.byteOrderMark :: text) = Csv.byteOrderMark :: style.ended text := by
  obtain ⟨marked, returns, closed⟩ := style
  have other : Csv.byteOrderMark ≠ '\n' := by decide
  cases closed <;> cases returns <;>
    simp only [LineStyle.ended, if_true, Bool.false_eq_true, if_false, List.cons_append,
      withReturns_cons other]

theorem textLines_congr {text other : String}
    (same : plainLines text.toList = plainLines other.toList) : textLines text = textLines other := by
  rw [textLines, textLines, same]

theorem LineStyle.textLines_write (style : LineStyle) {text : String} (full : text.toList ≠ [])
    (plain : '\r' ∉ text.toList) (unmarked : text.toList.head? ≠ some Csv.byteOrderMark)
    (unended : style.closed = true → text.toList.getLast? ≠ some '\n') :
    textLines (style.write text) = textLines text := by
  obtain ⟨dropped, kept⟩ := textLines_marked full plain unmarked
  rw [String.ofList_toList] at kept
  rw [LineStyle.write]
  split
  · have still : '\r' ∉ Csv.byteOrderMark :: text.toList :=
      List.not_mem_cons_of_ne_of_not_mem (by decide) plain
    have last : style.closed = true →
        (Csv.byteOrderMark :: text.toList).getLast? ≠ some '\n' := by
      intro closed
      rw [List.getLast?_cons_of_ne_nil full]
      exact unended closed
    have lines := style.plainLines_ended (List.cons_ne_nil _ _) still last
    have same : textLines (String.ofList (style.ended (Csv.byteOrderMark :: text.toList))) =
        textLines (String.ofList (Csv.byteOrderMark :: text.toList)) := by
      apply textLines_congr
      rw [String.toList_ofList, String.toList_ofList, lines]
    rw [← style.ended_mark, same, dropped, kept]
  · apply textLines_congr
    rw [String.toList_ofList]
    exact style.plainLines_ended full plain unended

namespace Reader

theorem Numbered.sameLines {number : Nat} {raw other : List RawLine} {lines : List String}
    (one : Numbered number raw lines) (another : Numbered number other lines) :
    SameLines number raw other := by
  induction one generalizing other with
  | nil number =>
    cases another
    exact .nil number
  | cons read rest ih =>
    cases another with
    | cons read' rest' => exact .utf8 (read.trans read'.symm) (ih rest')

theorem alike_ofText {text other : String} (same : textLines text = textLines other) :
    Alike (ofText text) (ofText other) :=
  .same ((numbered_ofText text).sameLines (same ▸ numbered_ofText other))

/-- Whatever is done with a reader, the replies and the numbers of lines are those for the same text
with its lines ended in another style, and with a byte order mark or without. -/
theorem visitAll_write (tokenize : Csv.Tokenizer) (style : LineStyle) {text : String}
    (full : text ≠ "") (plain : '\r' ∉ text.toList)
    (unmarked : text.toList.head? ≠ some Csv.byteOrderMark)
    (unended : style.closed = true → text.toList.getLast? ≠ some '\n') (visits : List Visit) :
    (ofBytes (style.write text).toUTF8).visitAll tokenize visits =
      (ofBytes text.toUTF8).visitAll tokenize visits := by
  have full : text.toList ≠ [] := fun empty => full (String.toList_eq_nil_iff.mp empty)
  rw [ofBytes_toUTF8, ofBytes_toUTF8]
  exact (alike_ofText (style.textLines_write full plain unmarked unended)).visitAll tokenize visits

/-- All three at once; the second data section is left where a row has been taken. -/
theorem visitAll_write_of_marked_returns :
    (ofBytes "\ufeff<start>\r\nA=b\r\n<end>\r\nh\r\n1\r\n2\r\n<start>\r\n".toUTF8).visitAll
        Csv.tokenize [.commands, .rows 1 false, .line, .rows 1 true, .line] =
      [(.commands (.ok ["A=b"]), 3), (.rows ["h"] [.ok ⟨[("h", "1")]⟩] none, 5),
        (.line (.ok (some "2")), 6), (.rows [] [] (some (.ok true)), 7),
        (.line (.ok (some startMarker)), 7)] := by
  have written := visitAll_write Csv.tokenize ⟨true, true, true⟩
    (by decide : "<start>\nA=b\n<end>\nh\n1\n2\n<start>" ≠ "") (by decide) (by decide) (by decide)
    [.commands, .rows 1 false, .line, .rows 1 true, .line]
  have style : (⟨true, true, true⟩ : LineStyle).write "<start>\nA=b\n<end>\nh\n1\n2\n<start>" =
      "\ufeff<start>\r\nA=b\r\n<end>\r\nh\r\n1\r\n2\r\n<start>\r\n" := by decide
  rw [style] at written
  rw [written, ofBytes_toUTF8]
  rfl

end Reader

end ReportSheets

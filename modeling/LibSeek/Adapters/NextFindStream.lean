/-
The reader of a page, chunk by chunk.

A page comes in chunks, and where a line of it raises, it is the exception of the page.  Of a page
beyond the limit it is up to the chunks which of the two comes first, the line that raises or the
limit.

Main definitions:

* `Adapters.Chunkless` — the page is the same whatever the chunks.

Main results:

* `Adapters.parseChunks_eq_parseStream`, `Adapters.parseChunks_raises` — where no line raises, the
  page is that of its bytes, and where one does, its exception;
* `Adapters.parseChunks_chunkless_iff` — **a page is the same whatever the chunks if and only if it
  is within the limit, or no line that ends within it raises**.
-/

import LibSeek.Adapters.NextFind

set_option relaxedAutoImplicit false
set_option autoImplicit false

namespace LibSeek.Adapters

open LibSeek.Core LibSeek.Lib LibSeek.Lib.Framing LibSeek.Models LibSeek.Schemas

/-! ### The chunks that a page comes in -/

section Stream

variable [StreamRuntime] (adapter : NextFindAdapter) (now : DateTime)

/-- A page is the same whatever the chunks that its bytes come in. -/
def Chunkless (body : List UInt8) (broken : Option AppError) (expectedPage : ℕ) : Prop :=
  ∀ chunks chunks' : List (List UInt8), chunks.flatten = body → chunks'.flatten = body →
    parseChunks adapter now chunks broken expectedPage =
      parseChunks adapter now chunks' broken expectedPage

/-- No line raises that ends within a number of bytes. -/
def QuietWithin (limit : ℕ) (body : List UInt8) : Prop :=
  ∀ line ∈ complete 10 (body.take limit), lineRaises adapter (rstripReturns line) = none

instance (limit : ℕ) (body : List UInt8) : Decidable (QuietWithin adapter limit body) := by
  unfold QuietWithin
  infer_instance

variable {adapter now}

/-! ### Lines that raise -/

/-- What a line comes to that does not raise. -/
theorem consumeLine_eq_ok {consumed : Consumed} {rawLine : List UInt8}
    (h : lineRaises adapter (rstripReturns rawLine) = none) :
    consumeLine adapter now consumed rawLine =
      .ok
        { lineNumber := consumed.lineNumber + 1
          parsed := consumed.parsed.append
            (consume adapter now (consumed.lineNumber + 1) (rstripReturns rawLine)) } := by
  rw [consumeLine]
  simp only [h]

theorem consumeLine_eq_error {consumed : Consumed} {rawLine : List UInt8} {exception : String}
    (h : lineRaises adapter (rstripReturns rawLine) = some exception) :
    consumeLine adapter now consumed rawLine = .error (.other exception) := by
  rw [consumeLine]
  simp only [h]

/-- A line does not raise the error of a page that is too large. -/
theorem consumeLine_ne_tooLarge (consumed : Consumed) (rawLine : List UInt8) :
    consumeLine adapter now consumed rawLine ≠ .error (.app responseTooLarge) := by
  intro h
  cases hraises : lineRaises adapter (rstripReturns rawLine) with
  | none =>
      rw [consumeLine_eq_ok hraises] at h
      cases h
  | some exception =>
      rw [consumeLine_eq_error hraises] at h
      cases h

/-- Lines are consumed to the end exactly if none of them raises. -/
theorem foldlM_consumeLine_iff {lines : List (List UInt8)} {consumed : Consumed} :
    (∃ consumed', lines.foldlM (consumeLine adapter now) consumed = .ok consumed') ↔
      ∀ line ∈ lines, lineRaises adapter (rstripReturns line) = none := by
  induction lines generalizing consumed with
  | nil => exact ⟨fun _ line hline => absurd hline List.not_mem_nil, fun _ => ⟨consumed, rfl⟩⟩
  | cons line lines ih =>
      rw [List.foldlM_cons, List.forall_mem_cons]
      cases hraises : lineRaises adapter (rstripReturns line) with
      | none =>
          rw [consumeLine_eq_ok hraises]
          constructor
          · intro h
            exact ⟨rfl, ih.mp h⟩
          · intro h
            exact ih.mpr h.2
      | some exception =>
          rw [consumeLine_eq_error hraises]
          constructor
          · rintro ⟨consumed', h⟩
            cases h
          · intro h
            exact absurd h.1 (by simp)

/-! ### The page of its bytes -/

omit [StreamRuntime] in
theorem Parsed.append_assoc (p q r : Parsed) : (p.append q).append r = p.append (q.append r) := by
  simp only [Parsed.append, Observation.append, List.append_assoc]

omit [StreamRuntime] in
theorem Parsed.empty_append (p : Parsed) : Parsed.append {} p = p := by
  simp only [Parsed.append, Observation.append, List.nil_append]

omit [StreamRuntime] in
theorem Parsed.append_empty (p : Parsed) : p.append {} = p := by
  simp only [Parsed.append, Observation.append, List.append_nil]

/-- What is consumed of lines of which none raises. -/
theorem foldlM_consumeLine_eq {lines : List (List UInt8)} {consumed : Consumed}
    (h : ∀ line ∈ lines, lineRaises adapter (rstripReturns line) = none) :
    lines.foldlM (consumeLine adapter now) consumed =
      .ok
        { lineNumber := consumed.lineNumber + lines.length
          parsed := consumed.parsed.append
            (consumeAll adapter now (consumed.lineNumber + 1) (lines.map rstripReturns)) } := by
  induction lines generalizing consumed with
  | nil =>
      rw [List.map_nil, consumeAll, Parsed.append_empty]
      rfl
  | cons line lines ih =>
      obtain ⟨hline, hlines⟩ := List.forall_mem_cons.mp h
      have hnumber : consumed.lineNumber + 1 + lines.length =
          consumed.lineNumber + (lines.length + 1) := by omega
      rw [List.foldlM_cons, consumeLine_eq_ok hline]
      refine (ih hlines).trans ?_
      rw [List.map_cons, consumeAll, List.length_cons, hnumber, Parsed.append_assoc]

omit [StreamRuntime] in
/-- The lines of a body are those that are ended, and what is left over. -/
theorem linesOf_eq (body : List UInt8) :
    linesOf body =
      (complete 10 body ++ if rest 10 body = [] then [] else [rest 10 body]).map rstripReturns := by
  have hsplit : body.splitOn 10 = complete 10 body ++ [rest 10 body] :=
    (List.dropLast_append_getLast (List.splitOn_ne_nil 10 body)).symm
  rw [linesOf, hsplit, List.getLast?_concat, List.dropLast_concat]
  by_cases hrest : rest 10 body = []
  · rw [if_pos hrest, if_pos (by rw [hrest]), List.append_nil]
  · rw [if_neg hrest, if_neg (by simpa using hrest)]

/-- What is read within the limit ends as if the lines had been there from the start. -/
theorem takeAll_finishPage (body : List UInt8) (expectedPage : ℕ) :
    (takeAll 10 (consumeLine adapter now) {} body >>= finishPage adapter now expectedPage) =
      (complete 10 body ++ if rest 10 body = [] then [] else [rest 10 body]).foldlM
          (consumeLine adapter now) {} >>= fun consumed =>
        let state := paginationState consumed.parsed.observed expectedPage
        .ok (consumed.parsed.records, consumed.parsed.warnings ++ state.1, state.2) := by
  rw [takeAll, List.foldlM_append]
  cases (complete 10 body).foldlM (consumeLine adapter now) {} with
  | error e => rfl
  | ok consumed =>
      change finishPage adapter now expectedPage { state := consumed, buffer := rest 10 body } = _
      rw [finishPage]
      by_cases hrest : rest 10 body = []
      · simp only [hrest, if_true]
        rfl
      · simp only [hrest, if_false]
        cases hline : consumeLine adapter now consumed (rest 10 body) with
        | error e => simp only [bind, Except.bind, List.foldlM_cons, hline]
        | ok consumed' =>
            simp only [bind, Except.bind, List.foldlM_cons, List.foldlM_nil, hline]
            rfl

/-- **Where no line raises, the page is that of its bytes.** -/
theorem parseChunks_eq_parseStream (chunks : List (List UInt8)) (broken : Option AppError)
    (expectedPage : ℕ)
    (h : ∀ line ∈ linesOf chunks.flatten, lineRaises adapter line = none) :
    parseChunks adapter now chunks broken expectedPage =
      (parseStream adapter now chunks.flatten broken expectedPage).mapError Exn.app := by
  rw [linesOf_eq, List.forall_mem_map] at h
  have hcomplete : ∀ line ∈ complete 10 chunks.flatten,
      lineRaises adapter (rstripReturns line) = none := by
    intro line hline
    exact h line (List.mem_append_left _ hline)
  rw [parseChunks, parseStream.eq_def]
  by_cases hlt : adapter.maxResponseBytes < chunks.flatten.length
  · -- Beyond the limit, the lines that are read first do not raise.
    obtain ⟨consumed, hconsumed⟩ := foldlM_consumeLine_iff.mpr hcomplete
    obtain ⟨consumed', hbegins⟩ := foldlM_complete_begins
      (List.take_prefix adapter.maxResponseBytes chunks.flatten) hconsumed
    rw [readWithin_of_lt hlt hbegins, if_pos hlt]
    rfl
  · rw [readWithin_of_le _ (Nat.le_of_not_lt hlt), if_neg hlt]
    cases broken with
    | some error =>
        rw [takeAll, foldlM_consumeLine_eq hcomplete]
        rfl
    | none =>
        have hend : endPage adapter now none expectedPage = finishPage adapter now expectedPage := rfl
        rw [hend, takeAll_finishPage, foldlM_consumeLine_eq h, linesOf_eq, Parsed.empty_append]
        rfl

/-- Lines of which one raises are not consumed to the end. -/
theorem foldlM_consumeLine_raises {lines : List (List UInt8)} {consumed : Consumed}
    (h : ∃ line ∈ lines, lineRaises adapter (rstripReturns line) ≠ none) :
    ∃ exception, lines.foldlM (consumeLine adapter now) consumed = .error (.other exception) := by
  induction lines generalizing consumed with
  | nil =>
      obtain ⟨line, hline, -⟩ := h
      exact absurd hline List.not_mem_nil
  | cons line lines ih =>
      rw [List.foldlM_cons]
      cases hraises : lineRaises adapter (rstripReturns line) with
      | some exception =>
          rw [consumeLine_eq_error hraises]
          exact ⟨exception, rfl⟩
      | none =>
          rw [consumeLine_eq_ok hraises]
          refine ih ?_
          obtain ⟨other, hother, hloud⟩ := h
          rcases List.mem_cons.mp hother with rfl | hother
          · exact absurd hraises hloud
          · exact ⟨other, hother, hloud⟩

/-- **A line that raises is the exception of its page**, within the limit. -/
theorem parseChunks_raises {chunks : List (List UInt8)} (expectedPage : ℕ)
    (hlength : chunks.flatten.length ≤ adapter.maxResponseBytes)
    (h : ∃ line ∈ linesOf chunks.flatten, lineRaises adapter line ≠ none) :
    ∃ exception, parseChunks adapter now chunks none expectedPage = .error (.other exception) := by
  rw [linesOf_eq] at h
  obtain ⟨line, hline, hraises⟩ := h
  obtain ⟨rawLine, hrawLine, rfl⟩ := List.mem_map.mp hline
  obtain ⟨exception, hexception⟩ := @foldlM_consumeLine_raises _ adapter now _ {}
    ⟨rawLine, hrawLine, hraises⟩
  have hend : endPage adapter now none expectedPage = finishPage adapter now expectedPage := rfl
  rw [parseChunks, readWithin_of_le _ hlength, hend, takeAll_finishPage, hexception]
  exact ⟨exception, rfl⟩

/-! ### The chunks of a page -/

/-- **A page is the same whatever the chunks if and only if it is within the limit, or no line that
ends within it raises.** -/
theorem parseChunks_chunkless_iff (body : List UInt8) (broken : Option AppError)
    (expectedPage : ℕ) :
    Chunkless adapter now body broken expectedPage ↔
      body.length ≤ adapter.maxResponseBytes ∨
        QuietWithin adapter adapter.maxResponseBytes body := by
  have hiff := @readWithin_independent_iff UInt8 Consumed Exn _ 10 (consumeLine adapter now)
    adapter.maxResponseBytes (.app responseTooLarge) Page (endPage adapter now broken expectedPage) {}
    body consumeLine_ne_tooLarge
  rw [foldlM_consumeLine_iff] at hiff
  exact hiff

end Stream

/-! ### A number with too many digits -/

/-- The bytes of a text of ASCII characters. -/
def asciiBytes (text : String) : List UInt8 :=
  text.toList.map fun c => c.toNat.toUInt8

/-- The row of a film. -/
def filmRow (id : Int) (title : String) : Members :=
  [("id", .int id), ("type", .str "movie"), ("title", .str title)]

/-- The lines of the list, with what they decode to: a row without a title, and two films. -/
def sampleLines : List (List UInt8 × Payload) :=
  [(asciiBytes "\x7b\"id\":1\x7d", .dict [("id", .int 1)]),
    (asciiBytes "\x7b\"id\":2,\"type\":\"movie\",\"title\":\"A\"\x7d", .dict (filmRow 2 "A")),
    (asciiBytes "\x7b\"id\":3,\"type\":\"movie\",\"title\":\"B\"\x7d", .dict (filmRow 3 "B"))]

/-- The runtime, as far as the list needs it. -/
@[reducible] def sampleRuntime : NextFindRuntime where
  toUrlText := asciiUrlText
  loads line := (sampleLines.find? fun entry => entry.1 = line).map Prod.snd
  modelValidate row :=
    match Members.get? row "id", Members.get? row "type", Members.get? row "title" with
    | some (.int id), some (.str type), some (.str title) =>
        some { id := some (.int id), type := some type, title }
    | _, _, _ => none
  int _ := none
  decimal c := if c.isDigit then some (c.toNat - 48) else none
  upper text := String.ofList (text.toList.map Char.toUpper)
  sha256Hex24 _ := "000000000000000000000000"

/-- The most digits of a number that the decoder takes. -/
def MAX_STR_DIGITS : ℕ := 4300

/-- The runtime whose decoder raises for a number with too many digits. -/
@[reducible] def digitsRuntime : StreamRuntime where
  toNextFindRuntime := sampleRuntime
  loadsRaises line :=
    if MAX_STR_DIGITS < line.length && line.all (fun byte => 48 ≤ byte && byte ≤ 57) then
      some "ValueError"
    else none
  loads_raises line hraises := by
    refine Option.map_eq_none_iff.mpr (List.find?_eq_none.mpr ?_)
    intro entry hentry heq
    -- the lines that the decoder knows are short
    have hshort : ∀ entry ∈ sampleLines, entry.1.length ≤ MAX_STR_DIGITS := by decide +kernel
    have hlength := hshort entry hentry
    rw [of_decide_eq_true heq] at hlength
    refine hraises (if_neg ?_)
    simp only [Bool.and_eq_true, decide_eq_true_eq, not_and]
    omega

/-- A number with too many digits. -/
def longNumber : List UInt8 :=
  List.replicate 4301 49

/-- What follows the number on the page. -/
def filler : List UInt8 :=
  List.replicate 699 120

/-- An adapter with a small limit. -/
def smallAdapter : NextFindAdapter :=
  { maxResponseBytes := 5000 }

/-- The number raises. -/
theorem lineRaises_longNumber :
    @lineRaises digitsRuntime smallAdapter (rstripReturns longNumber) = some "ValueError" := by
  have hstrip : rstripReturns longNumber = longNumber := by
    rw [rstripReturns, longNumber, List.reverse_replicate, List.dropWhile_replicate,
      if_neg (by decide), List.reverse_replicate]
  have hlength : longNumber.length = 4301 := List.length_replicate
  have hspace : longNumber.all isByteSpace = false := by
    rw [longNumber, List.all_replicate]
    rfl
  have hdigits : longNumber.all (fun byte => 48 ≤ byte && byte ≤ 57) = true := by
    rw [longNumber, List.all_replicate]
    rfl
  rw [hstrip]
  simp only [lineRaises, StreamRuntime.loadsRaises, hspace, hlength, hdigits]
  rfl

/-- **A page that is up to its chunks**: in one chunk it is too large, in two the number raises. -/
theorem parseChunks_not_chunkless :
    ¬ @Chunkless digitsRuntime smallAdapter 0 (longNumber ++ 10 :: filler) none 1 := by
  let _ := digitsRuntime
  intro h
  have hnumber : longNumber.length = 4301 := List.length_replicate
  have hfiller : filler.length = 699 := List.length_replicate
  have hmem : (10 : UInt8) ∉ longNumber := by
    intro hmem
    exact absurd (List.eq_of_mem_replicate hmem) (by decide)
  have hone : parseChunks smallAdapter 0 [longNumber ++ 10 :: filler] none 1 =
      .error (.app responseTooLarge) := by
    have hlt : smallAdapter.maxResponseBytes < (longNumber ++ 10 :: filler).length := by
      rw [List.length_append, List.length_cons, hnumber, hfiller]
      decide
    rw [parseChunks, readWithin_whole _ hlt]
    rfl
  have htwo : parseChunks smallAdapter 0 [longNumber ++ [10], filler] none 1 =
      .error (.other "ValueError") := by
    have hlength : (longNumber ++ [(10 : UInt8)]).length = 4302 := by
      rw [List.length_append, hnumber]
      rfl
    have hlines : (complete 10 (longNumber ++ [10])).foldlM (consumeLine smallAdapter 0) {} =
        .error (.other "ValueError") := by
      rw [complete_append_cons hmem, List.foldlM_cons, consumeLine_eq_error lineRaises_longNumber]
      rfl
    rw [parseChunks, readWithin_first (by rw [hlength]; decide) (by rw [hlength, hfiller]; decide)
      hlines]
    rfl
  have hsame := h [longNumber ++ 10 :: filler] [longNumber ++ [10], filler] List.flatten_singleton
    (by rw [List.flatten_cons, List.flatten_singleton, List.append_assoc, List.singleton_append])
  rw [hone, htwo] at hsame
  cases hsame

end LibSeek.Adapters

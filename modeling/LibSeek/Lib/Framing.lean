/-
Reading frames out of a stream that comes in pieces.

A reader keeps what it has of a frame that is not ended yet.  It appends each piece to it, and takes
the ended frames off its front one after the other.  Where the pieces are cut makes no difference to
it, with one exception: a reader that counts what came in before it looks for frames may reach its
limit before it comes to a frame that it cannot take.

Main definitions:

* `Lib.Framing.takeFrame` — the first ended frame of a buffer, and what follows it;
* `Lib.Framing.complete`, `Lib.Framing.rest` — the ended frames of a text, and what is left of it;
* `Lib.Framing.feed` — a reader takes a piece;
* `Lib.Framing.readWithin` — a reader with a limit takes pieces.

Main results:

* `Lib.Framing.feed_eq` — a piece is taken together with what the buffer holds;
* `Lib.Framing.readWithin_independent_iff` — **a reader with a limit comes to the same whatever the
  pieces if and only if the text is within the limit, or every frame that ends within it is taken**.
-/

import Mathlib.Data.List.Basic

set_option relaxedAutoImplicit false
set_option autoImplicit false

namespace LibSeek.Lib.Framing

variable {α σ ε : Type} [DecidableEq α]

/-! ### Frames -/

/-- The first ended frame of a buffer and what follows its delimiter, if there is one. -/
def takeFrame (delimiter : α) : List α → Option (List α × List α)
  | [] => none
  | a :: buffer =>
      if a = delimiter then some ([], buffer)
      else (takeFrame delimiter buffer).map fun split => (a :: split.1, split.2)

/-- The ended frames of a text. -/
def complete (delimiter : α) (text : List α) : List (List α) :=
  (text.splitOn delimiter).dropLast

/-- What follows the last ended frame of a text. -/
def rest (delimiter : α) (text : List α) : List α :=
  (text.splitOn delimiter).getLast (List.splitOn_ne_nil delimiter text)

variable {delimiter : α}

theorem takeFrame_eq_some {buffer frame after : List α}
    (h : takeFrame delimiter buffer = some (frame, after)) :
    buffer = frame ++ delimiter :: after ∧ delimiter ∉ frame := by
  induction buffer generalizing frame after with
  | nil => exact absurd h (by simp [takeFrame])
  | cons a buffer ih =>
      rw [takeFrame] at h
      by_cases ha : a = delimiter
      · rw [if_pos ha] at h
        obtain ⟨rfl, rfl⟩ : [] = frame ∧ buffer = after := by simpa using h
        exact ⟨by simp [ha], List.not_mem_nil⟩
      · rw [if_neg ha] at h
        obtain ⟨⟨frame', after'⟩, hsplit, heq⟩ := Option.map_eq_some_iff.mp h
        obtain ⟨rfl, rfl⟩ : a :: frame' = frame ∧ after' = after := by simpa using heq
        obtain ⟨hbuffer, hmem⟩ := ih hsplit
        refine ⟨by rw [hbuffer, List.cons_append], ?_⟩
        intro hcons
        rcases List.mem_cons.mp hcons with rfl | hcons
        · exact ha rfl
        · exact hmem hcons

theorem takeFrame_eq_none {buffer : List α} (h : takeFrame delimiter buffer = none) :
    delimiter ∉ buffer := by
  induction buffer with
  | nil => exact List.not_mem_nil
  | cons a buffer ih =>
      rw [takeFrame] at h
      by_cases ha : a = delimiter
      · rw [if_pos ha] at h
        exact absurd h (by simp)
      · rw [if_neg ha, Option.map_eq_none_iff] at h
        intro hcons
        rcases List.mem_cons.mp hcons with rfl | hcons
        · exact ha rfl
        · exact ih h hcons

/-- A text without a delimiter has no ended frame. -/
theorem complete_of_not_mem {text : List α} (h : delimiter ∉ text) :
    complete delimiter text = [] := by
  rw [complete, List.splitOn_eq_singleton h]
  rfl

theorem rest_of_not_mem {text : List α} (h : delimiter ∉ text) : rest delimiter text = text := by
  simp only [rest, List.splitOn_eq_singleton h, List.getLast_singleton]

/-- The frame before the first delimiter comes first. -/
theorem complete_append_cons {frame : List α} (h : delimiter ∉ frame) (after : List α) :
    complete delimiter (frame ++ delimiter :: after) = frame :: complete delimiter after := by
  rw [complete, List.splitOn_append_cons_self, List.splitOn_eq_singleton h, List.singleton_append,
    List.dropLast_cons_of_ne_nil (List.splitOn_ne_nil delimiter after), complete]

theorem rest_append_cons (frame after : List α) :
    rest delimiter (frame ++ delimiter :: after) = rest delimiter after := by
  simp only [rest, List.splitOn_append_cons_self]
  rw [List.getLast_append_of_ne_nil _ (List.splitOn_ne_nil delimiter after)]

/-- What is left over ends in no frame. -/
theorem not_mem_rest (text : List α) : delimiter ∉ rest delimiter text := by
  induction hn : text.length using Nat.strongRecOn generalizing text with
  | ind n ih =>
      cases htake : takeFrame delimiter text with
      | none =>
          have hmem := takeFrame_eq_none htake
          rwa [rest_of_not_mem hmem]
      | some split =>
          obtain ⟨rfl, -⟩ := takeFrame_eq_some htake
          rw [rest_append_cons]
          refine ih split.2.length ?_ split.2 rfl
          rw [← hn, List.length_append, List.length_cons]
          omega

/-- More text only goes on from what is left over. -/
theorem complete_append_and_rest (text more : List α) :
    complete delimiter (text ++ more) =
        complete delimiter text ++ complete delimiter (rest delimiter text ++ more) ∧
      rest delimiter (text ++ more) = rest delimiter (rest delimiter text ++ more) := by
  induction hn : text.length using Nat.strongRecOn generalizing text with
  | ind n ih =>
      cases htake : takeFrame delimiter text with
      | none =>
          have hmem := takeFrame_eq_none htake
          rw [complete_of_not_mem hmem, rest_of_not_mem hmem, List.nil_append]
          exact ⟨rfl, rfl⟩
      | some split =>
          obtain ⟨rfl, hmem⟩ := takeFrame_eq_some htake
          have hlt : split.2.length < n := by
            rw [← hn, List.length_append, List.length_cons]
            omega
          obtain ⟨hcomplete, hrest⟩ := ih _ hlt split.2 rfl
          rw [List.append_assoc, List.cons_append, complete_append_cons hmem,
            complete_append_cons hmem, rest_append_cons, rest_append_cons, hcomplete, hrest]
          exact ⟨rfl, rfl⟩

theorem complete_append (text more : List α) :
    complete delimiter (text ++ more) =
      complete delimiter text ++ complete delimiter (rest delimiter text ++ more) :=
  (complete_append_and_rest text more).1

theorem rest_append (text more : List α) :
    rest delimiter (text ++ more) = rest delimiter (rest delimiter text ++ more) :=
  (complete_append_and_rest text more).2

/-- The ended frames of a text are the first of those of a longer one. -/
theorem complete_begins {text whole : List α} (h : text <+: whole) :
    complete delimiter text <+: complete delimiter whole := by
  obtain ⟨more, rfl⟩ := h
  rw [complete_append]
  exact List.prefix_append _ _

/-! ### The reader -/

/-- What a reader has: what it made of the frames so far, and what it has of the next one. -/
structure Reader (α σ : Type) where
  state : σ
  buffer : List α := []

section Reading

variable (delimiter) (step : σ → List α → Except ε σ)

/-- The reader takes the ended frames off its buffer. -/
def drain : (fuel : ℕ) → Reader α σ → Except ε (Reader α σ)
  | 0, reader => .ok reader
  | fuel + 1, reader =>
      match takeFrame delimiter reader.buffer with
      | none => .ok reader
      | some (frame, after) => do
          let state ← step reader.state frame
          drain fuel { state, buffer := after }

/-- **The reader takes a piece.** -/
def feed (reader : Reader α σ) (piece : List α) : Except ε (Reader α σ) :=
  let buffer := reader.buffer ++ piece
  drain delimiter step buffer.length { reader with buffer }

/-- The reader has taken every frame of a text from a buffer on. -/
def takeAll (state : σ) (text : List α) : Except ε (Reader α σ) := do
  let state ← (complete delimiter text).foldlM step state
  return { state, buffer := rest delimiter text }

variable {delimiter step}

/-- Each frame is shorter than the buffer, so that the buffer is drained. -/
theorem drain_eq {fuel : ℕ} {reader : Reader α σ} (h : reader.buffer.length ≤ fuel) :
    drain delimiter step fuel reader = takeAll delimiter step reader.state reader.buffer := by
  induction fuel generalizing reader with
  | zero =>
      have hnil : reader.buffer = [] := List.length_eq_zero_iff.mp (by omega)
      rw [drain, takeAll, hnil, complete_of_not_mem List.not_mem_nil,
        rest_of_not_mem List.not_mem_nil, ← hnil]
      rfl
  | succ fuel ih =>
      rw [drain]
      cases htake : takeFrame delimiter reader.buffer with
      | none =>
          have hmem := takeFrame_eq_none htake
          simp only [takeAll, complete_of_not_mem hmem, rest_of_not_mem hmem, List.foldlM_nil]
          rfl
      | some split =>
          obtain ⟨hbuffer, hmem⟩ := takeFrame_eq_some htake
          have hlt : split.2.length ≤ fuel := by
            rw [hbuffer, List.length_append, List.length_cons] at h
            omega
          simp only [takeAll, hbuffer, complete_append_cons hmem, rest_append_cons,
            List.foldlM_cons]
          cases hstep : step reader.state split.1 with
          | error e => rfl
          | ok state => exact @ih { state, buffer := split.2 } hlt

theorem feed_eq (reader : Reader α σ) (piece : List α) :
    feed delimiter step reader piece =
      takeAll delimiter step reader.state (reader.buffer ++ piece) :=
  drain_eq (Nat.le_refl _)

/-- A text taken in two pieces. -/
theorem takeAll_append (state : σ) (text more : List α) :
    takeAll delimiter step state (text ++ more) =
      takeAll delimiter step state text >>= fun reader => feed delimiter step reader more := by
  rw [takeAll, complete_append, rest_append text more, List.foldlM_append, takeAll]
  cases (complete delimiter text).foldlM step state with
  | error e => rfl
  | ok state' => exact (feed_eq { state := state', buffer := rest delimiter text } more).symm

/-- A reader whose buffer holds no ended frame has taken its buffer. -/
theorem takeAll_of_not_mem {text : List α} (state : σ) (h : delimiter ∉ text) :
    takeAll delimiter step state text = .ok { state, buffer := text } := by
  rw [takeAll, complete_of_not_mem h, rest_of_not_mem h]
  rfl

/-- What a reader keeps ends in no frame. -/
theorem takeAll_not_mem {state : σ} {text : List α} {reader : Reader α σ}
    (h : takeAll delimiter step state text = .ok reader) : delimiter ∉ reader.buffer := by
  rw [takeAll] at h
  cases hfold : (complete delimiter text).foldlM step state with
  | error e =>
      rw [hfold] at h
      exact absurd h (by simp [bind, Except.bind])
  | ok state' =>
      rw [hfold] at h
      obtain rfl := Except.ok.inj h
      exact not_mem_rest text

end Reading

/-! ### A limit -/

/-- A reader, and how much has come in. -/
structure Counted (α σ : Type) where
  reader : Reader α σ
  total : ℕ := 0

section Limit

variable (delimiter) (step : σ → List α → Except ε σ) (limit : ℕ) (tooMuch : ε)

/-- The reader counts a piece before it takes it, and fails where there is too much. -/
def feedWithin (counted : Counted α σ) (piece : List α) : Except ε (Counted α σ) :=
  let total := counted.total + piece.length
  if limit < total then .error tooMuch
  else (feed delimiter step counted.reader piece).map fun reader => { reader, total }

/-- **The reader with a limit takes pieces.** -/
def readWithin (state : σ) (pieces : List (List α)) : Except ε (Reader α σ) :=
  (pieces.foldlM (feedWithin delimiter step limit tooMuch) { reader := { state } }).map
    Counted.reader

omit [DecidableEq α] in
/-- The pieces before the one that is too much. -/
def fitting (total : ℕ) : List (List α) → List (List α)
  | [] => []
  | piece :: pieces =>
      if limit < total + piece.length then []
      else piece :: fitting (total + piece.length) pieces

variable {delimiter step limit tooMuch}

omit [DecidableEq α] in
theorem fitting_begins (total : ℕ) (pieces : List (List α)) :
    (fitting limit total pieces).flatten <+: pieces.flatten := by
  induction pieces generalizing total with
  | nil => exact List.prefix_refl _
  | cons piece pieces ih =>
      rw [fitting]
      by_cases hlt : limit < total + piece.length
      · rw [if_pos hlt]
        exact List.nil_prefix
      · rw [if_neg hlt, List.flatten_cons, List.flatten_cons]
        exact (List.prefix_append_right_inj piece).mpr (ih _)

omit [DecidableEq α] in
theorem fitting_length {total : ℕ} (h : total ≤ limit) (pieces : List (List α)) :
    total + (fitting limit total pieces).flatten.length ≤ limit := by
  induction pieces generalizing total with
  | nil => simpa [fitting] using h
  | cons piece pieces ih =>
      rw [fitting]
      by_cases hlt : limit < total + piece.length
      · rw [if_pos hlt]
        simpa using h
      · have hle : total + piece.length ≤ limit := by omega
        have hrest := ih hle
        rw [if_neg hlt, List.flatten_cons, List.length_append]
        omega

omit [DecidableEq α] in
/-- Everything fits that is within the limit. -/
theorem fitting_eq {total : ℕ} {pieces : List (List α)}
    (h : total + pieces.flatten.length ≤ limit) : fitting limit total pieces = pieces := by
  induction pieces generalizing total with
  | nil => rfl
  | cons piece pieces ih =>
      rw [List.flatten_cons, List.length_append] at h
      have hlt : ¬ limit < total + piece.length := by omega
      rw [fitting, if_neg hlt, ih (by omega)]

/-- What the reader with a limit makes of pieces: it takes those that fit, and fails if there are
more. -/
theorem feedWithin_foldlM (pieces : List (List α)) {counted : Counted α σ}
    (hbuffer : delimiter ∉ counted.reader.buffer) (hle : counted.total ≤ limit) :
    (pieces.foldlM (feedWithin delimiter step limit tooMuch) counted).map Counted.reader =
      takeAll delimiter step counted.reader.state
          (counted.reader.buffer ++ (fitting limit counted.total pieces).flatten) >>=
        fun reader =>
          if limit < counted.total + pieces.flatten.length then .error tooMuch else .ok reader := by
  induction pieces generalizing counted with
  | nil =>
      have hlt : ¬ limit < counted.total + ([] : List (List α)).flatten.length := by simpa using hle
      rw [fitting, List.flatten_nil, List.append_nil, takeAll_of_not_mem _ hbuffer]
      exact (if_neg hlt).symm
  | cons piece pieces ih =>
      rw [List.foldlM_cons, feedWithin, fitting, List.flatten_cons, List.length_append,
        ← Nat.add_assoc]
      by_cases hlt : limit < counted.total + piece.length
      · -- The piece is too much, and with those that follow it even more so.
        have hmore : limit < counted.total + piece.length + pieces.flatten.length := by omega
        rw [if_pos hlt, if_pos hlt, List.flatten_nil, List.append_nil,
          takeAll_of_not_mem _ hbuffer]
        exact (if_pos hmore).symm
      · rw [if_neg hlt, if_neg hlt, List.flatten_cons, ← List.append_assoc, takeAll_append,
          feed_eq]
        cases htake : takeAll delimiter step counted.reader.state
            (counted.reader.buffer ++ piece) with
        | error e => rfl
        | ok reader =>
            have hnext : counted.total + piece.length ≤ limit := by omega
            have hreader := @ih { reader, total := counted.total + piece.length }
              (takeAll_not_mem htake) hnext
            rw [← feed_eq] at hreader
            exact hreader

theorem readWithin_eq (state : σ) (pieces : List (List α)) :
    readWithin delimiter step limit tooMuch state pieces =
      takeAll delimiter step state (fitting limit 0 pieces).flatten >>= fun reader =>
        if limit < pieces.flatten.length then .error tooMuch else .ok reader := by
  have hread := @feedWithin_foldlM α σ ε _ delimiter step limit tooMuch pieces
    { reader := { state } } List.not_mem_nil (Nat.zero_le limit)
  rw [Nat.zero_add, List.nil_append] at hread
  exact hread

/-- Within the limit, the reader is the one without. -/
theorem readWithin_of_le (state : σ) {pieces : List (List α)}
    (h : pieces.flatten.length ≤ limit) :
    readWithin delimiter step limit tooMuch state pieces =
      takeAll delimiter step state pieces.flatten := by
  have hlt : ¬ limit < pieces.flatten.length := by omega
  rw [readWithin_eq, fitting_eq (by omega)]
  cases takeAll delimiter step state pieces.flatten with
  | error e => rfl
  | ok reader => exact if_neg hlt

/-- Frames that are all taken up to a point are taken up to every earlier one. -/
theorem foldlM_complete_begins {state state' : σ} {text whole : List α} (hbegins : text <+: whole)
    (h : (complete delimiter whole).foldlM step state = .ok state') :
    ∃ state'', (complete delimiter text).foldlM step state = .ok state'' := by
  obtain ⟨more, hmore⟩ := @complete_begins α _ delimiter text whole hbegins
  rw [← hmore, List.foldlM_append] at h
  cases htext : (complete delimiter text).foldlM step state with
  | error e =>
      rw [htext] at h
      exact absurd h (by simp [bind, Except.bind])
  | ok state'' => exact ⟨state'', rfl⟩

/-- Beyond the limit, the reader says so if it takes every frame that ends within it. -/
theorem readWithin_of_lt {state state' : σ} {pieces : List (List α)}
    (hlt : limit < pieces.flatten.length)
    (h : (complete delimiter (pieces.flatten.take limit)).foldlM step state = .ok state') :
    readWithin delimiter step limit tooMuch state pieces = .error tooMuch := by
  have hlength := fitting_length (Nat.zero_le limit) pieces
  have hbegins : (fitting limit 0 pieces).flatten <+: pieces.flatten.take limit :=
    List.prefix_take_iff.mpr ⟨fitting_begins 0 pieces, by omega⟩
  obtain ⟨state'', hfold⟩ := foldlM_complete_begins hbegins h
  rw [readWithin_eq, takeAll, hfold]
  exact if_pos hlt

/-- A text beyond the limit that comes in at once is not looked at. -/
theorem readWithin_whole (state : σ) {text : List α} (hlt : limit < text.length) :
    readWithin delimiter step limit tooMuch state [text] = .error tooMuch := by
  have hfit : fitting limit 0 [text] = [] := by
    rw [fitting, if_pos (by omega)]
  rw [readWithin_eq, hfit, List.flatten_nil, takeAll_of_not_mem _ List.not_mem_nil,
    List.flatten_singleton]
  exact if_pos hlt

/-- What fails in a first piece within the limit fails before the second is too much. -/
theorem readWithin_first {state : σ} {first second : List α} {e : ε}
    (hle : first.length ≤ limit) (hlt : limit < first.length + second.length)
    (h : (complete delimiter first).foldlM step state = .error e) :
    readWithin delimiter step limit tooMuch state [first, second] = .error e := by
  have hfit : fitting limit 0 [first, second] = [first] := by
    rw [fitting, if_neg (by omega), fitting, if_pos (by omega)]
  rw [readWithin_eq, hfit, List.flatten_singleton, takeAll, h]
  rfl

omit [DecidableEq α] in
/-- A fold that fails fails at one of its steps. -/
theorem foldlM_eq_error {state : σ} {frames : List (List α)} {e : ε}
    (h : frames.foldlM step state = .error e) : ∃ state' frame, step state' frame = .error e := by
  induction frames generalizing state with
  | nil => exact absurd h (by simp [pure, Except.pure])
  | cons frame frames ih =>
      rw [List.foldlM_cons] at h
      cases hstep : step state frame with
      | error e' =>
          rw [hstep] at h
          obtain rfl := Except.error.inj h
          exact ⟨state, frame, hstep⟩
      | ok state' =>
          rw [hstep] at h
          exact ih h

/-- **A reader with a limit comes to the same whatever the pieces if and only if the text is within
the limit, or every frame that ends within it is taken.**  The pieces that tell are the whole text
at once, and the text cut at the limit. -/
theorem readWithin_independent_iff {β : Type} (finish : Reader α σ → Except ε β) (state : σ)
    (text : List α) (hover : ∀ state frame, step state frame ≠ .error tooMuch) :
    (∀ pieces pieces' : List (List α), pieces.flatten = text → pieces'.flatten = text →
      (readWithin delimiter step limit tooMuch state pieces >>= finish) =
        (readWithin delimiter step limit tooMuch state pieces' >>= finish)) ↔
      text.length ≤ limit ∨
        ∃ state', (complete delimiter (text.take limit)).foldlM step state = .ok state' := by
  constructor
  · intro h
    by_contra hneither
    obtain ⟨hlt, hfail⟩ := not_or.mp hneither
    have hlt : limit < text.length := by omega
    cases hfold : (complete delimiter (text.take limit)).foldlM step state with
    | ok state' => exact hfail ⟨state', hfold⟩
    | error e =>
        -- in one piece the text is too long, in two its first part fails before that
        have hwhole : readWithin delimiter step limit tooMuch state [text] = .error tooMuch :=
          readWithin_whole state hlt
        have hcut : readWithin delimiter step limit tooMuch state [text.take limit, text.drop limit] =
            .error e := by
          have hlength : (text.take limit).length = limit := by
            rw [List.length_take]
            omega
          have hdrop : (text.drop limit).length ≠ 0 := by
            rw [List.length_drop]
            omega
          exact readWithin_first (by omega) (by omega) hfold
        have hsame := h [text] [text.take limit, text.drop limit] List.flatten_singleton
          (by simp [List.take_append_drop])
        rw [hwhole, hcut] at hsame
        obtain rfl : tooMuch = e := Except.error.inj hsame
        obtain ⟨state', frame, hstep⟩ := foldlM_eq_error hfold
        exact hover state' frame hstep
  · rintro (hle | ⟨state', hfold⟩) pieces pieces' rfl hpieces'
    · rw [readWithin_of_le state hle, readWithin_of_le state (by rw [hpieces']; exact hle), hpieces']
    · by_cases hlt : limit < pieces.flatten.length
      · rw [readWithin_of_lt hlt hfold,
          readWithin_of_lt (by rw [hpieces']; exact hlt) (by rw [hpieces']; exact hfold)]
      · have hle : pieces.flatten.length ≤ limit := by omega
        rw [readWithin_of_le state hle, readWithin_of_le state (by rw [hpieces']; exact hle),
          hpieces']

end Limit

end LibSeek.Lib.Framing

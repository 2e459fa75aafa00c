import TaskQueue.Proofs.Codec
import TaskQueue.Proofs.Time.Text

/-!
# Every message read back from its text

Each record that travels through the queues (`PendingHint`, `ClaimNotice`, `DeadlineNotice`,
`ResolvedNotice` and `TaskRef`) is written as canonical base64 (`Base64.Canonical`: groups
of four characters of the alphabet, `=` only closing the last group), and its text reads back
as the record, also with blank characters around it (`Codec.texts_read_back`).  What a record
needs is what its types guarantee: a ULID of 128 bits, and instants that a clock can read.

The layers below the record are those of `Proofs.Codec`: base64, UTF-8, JSON strings and
numbers, flat objects and the fields of a record.  Here come the instants, read by
`parseLenient` (`Json.instant?_toText`), the names of resolutions and priorities, the
identifiers, whose text is checked again on the way in, and the blanks that `Codec.decode`
trims (`Text.trimList_around`).
-/

namespace TaskQueue

/-! ### Base64 text -/

namespace Base64

/-- A character of the standard alphabet: a letter, a digit, `+` or `/`. -/
def InAlphabet (c : Char) : Prop := (value? c).isSome

/-- Canonical base64 text: groups of four characters of the alphabet, the last group closed
by one or two `=` when the bytes run out. -/
inductive Canonical : List Char → Prop
  | nil : Canonical []
  | one {a b : Char} : InAlphabet a → InAlphabet b → Canonical [a, b, '=', '=']
  | two {a b c : Char} : InAlphabet a → InAlphabet b → InAlphabet c → Canonical [a, b, c, '=']
  | group {a b c d : Char} {rest : List Char} : InAlphabet a → InAlphabet b → InAlphabet c →
      InAlphabet d → Canonical rest → Canonical (a :: b :: c :: d :: rest)

theorem inAlphabet_digit {v : Nat} (h : v < 64) :
  InAlphabet (digit v)
  := by
  simp [InAlphabet, value?_digit h]

/-- Base64 writes canonical text. -/
theorem canonical_encode (bs : List UInt8) :
  Canonical (encode bs)
  := by
  fun_induction encode bs with
  | case1 => exact .nil
  | case2 a =>
    have ha := a.toNat_lt
    exact .one (inAlphabet_digit (by omega))
      (inAlphabet_digit (by omega))
  | case3 a b =>
    have ha := a.toNat_lt
    have hb := b.toNat_lt
    exact .two (inAlphabet_digit (by omega)) (inAlphabet_digit (by omega))
      (inAlphabet_digit (by omega))
  | case4 a b c rest x ih =>
    have ha := a.toNat_lt
    have hb := b.toNat_lt
    have hc := c.toNat_lt
    exact .group (inAlphabet_digit (by omega)) (inAlphabet_digit (by omega))
      (inAlphabet_digit (by omega)) (inAlphabet_digit (by omega)) ih

end Base64

/-! ### Blanks around a text -/

/-- Dropping blanks from the front of blanks, then of a text that does not start with one,
leaves the text. -/
theorem Text.dropWhile_blank_append {ws cs : List Char} (hws : ∀ c ∈ ws, Text.isBlank c = true)
    (hcs : ∀ c ∈ cs.head?, Text.isBlank c = false) :
  (ws ++ cs).dropWhile Text.isBlank = cs
  := by
  induction ws with
  | nil =>
    cases cs with
    | nil => rfl
    | cons c cs => simp [hcs c rfl]
  | cons w ws ih =>
    rw [List.cons_append, List.dropWhile_cons_of_pos (hws w List.mem_cons_self)]
    exact ih (fun c hc => hws c (List.mem_cons_of_mem _ hc))

/-- Trimming removes the blanks around a text that has none of its own. -/
theorem Text.trimList_around {ws cs ws' : List Char} (hws : ∀ c ∈ ws, Text.isBlank c = true)
    (hws' : ∀ c ∈ ws', Text.isBlank c = true) (hcs : ∀ c ∈ cs, Text.isBlank c = false) :
  Text.trimList (ws ++ cs ++ ws') = cs
  := by
  by_cases hnil : cs = []
  · subst hnil
    have hall : ∀ c ∈ ws ++ ws', Text.isBlank c = true := by
      intro c hc
      rcases List.mem_append.1 hc with h | h
      · exact hws c h
      · exact hws' c h
    have hdrop : (ws ++ ws' ++ []).dropWhile Text.isBlank = [] :=
      Text.dropWhile_blank_append hall (by simp)
    rw [List.append_nil] at hdrop
    rw [List.append_nil, Text.trimList, hdrop]
    rfl
  · have hhead : ∀ c ∈ (cs ++ ws').head?, Text.isBlank c = false := by
      intro c hc
      rw [List.head?_append_of_ne_nil _ hnil] at hc
      exact hcs c (List.mem_of_mem_head? hc)
    have hlast : ∀ c ∈ cs.reverse.head?, Text.isBlank c = false :=
      fun c hc => hcs c (List.mem_reverse.1 (List.mem_of_mem_head? hc))
    rw [Text.trimList, List.append_assoc, Text.dropWhile_blank_append hws hhead, List.reverse_append,
      Text.dropWhile_blank_append (fun c hc => hws' c (List.mem_reverse.1 hc)) hlast,
      List.reverse_reverse]

namespace Codec

/-- Blanks around a message text do not change what it reads as. -/
theorem decodeJson_around (j : Json) {ws ws' : List Char} (hws : ∀ c ∈ ws, Text.isBlank c = true)
    (hws' : ∀ c ∈ ws', Text.isBlank c = true) :
  decodeJson (String.ofList (ws ++ (encode j).toList ++ ws')) = decodeJson (encode j)
  := by
  have hnone : ∀ c ∈ (encode j).toList, Text.isBlank c = false := by
    intro c hc
    rw [encode, String.toList_ofList] at hc
    exact Base64.isBlank_of_mem_encode hc
  unfold decodeJson
  rw [String.toList_ofList, Text.trimList_around hws hws' hnone, Text.trimList_of_forall hnone]

end Codec

/-! ### Fields read back -/

theorem Json.instant?_toText {t : Time.Instant} (ht : t.Valid) :
  Json.instant? (.str t.toText) = some t
  := by
  simp [Json.instant?, Json.string?, Time.Instant.parseLenient_toText ht]

theorem Resolution.ofName?_name (r : Resolution) :
  Resolution.ofName? r.name = some r
  := by
  cases r <;> rfl

theorem ProvisionerId.parse_val (p : ProvisionerId) :
  ProvisionerId.parse p.val = .ok p
  := by
  rw [ProvisionerId.parse, dif_pos p.valid]

theorem WorkerType.parse_val (w : WorkerType) :
  WorkerType.parse w.val = .ok w
  := by
  rw [WorkerType.parse, dif_pos w.valid]

/-! ### Records read back -/

theorem ClaimNotice.ofJson?_toJson (m : ClaimNotice) (hv : m.takenUntil.Valid) :
  ofJson? m.toJson = some m
  := by
  have hfields : Json.fields? ["taskId", "runId", "takenUntil"] m.toJson =
      some [.str m.taskId.val, .nat m.runId.toNat, .str m.takenUntil.toText] :=
    Json.fields?_obj rfl (by decide)
  simp [ofJson?, hfields, Json.string?, Json.u32?_nat, Json.instant?_toText hv]

theorem DeadlineNotice.ofJson?_toJson (m : DeadlineNotice) (hv : m.deadline.Valid) :
  ofJson? m.toJson = some m
  := by
  have hfields : Json.fields? ["taskId", "taskGroupId", "schedulerId", "deadline"] m.toJson =
      some [.str m.taskId.val, .str m.taskGroupId, .str m.schedulerId, .str m.deadline.toText] :=
    Json.fields?_obj rfl (by decide)
  simp [ofJson?, hfields, Json.string?, Json.instant?_toText hv]

theorem ResolvedNotice.ofJson?_toJson (m : ResolvedNotice) :
  ofJson? m.toJson = some m
  := by
  have hfields : Json.fields? ["taskId", "taskGroupId", "schedulerId", "resolution"] m.toJson =
      some [.str m.taskId.val, .str m.taskGroupId, .str m.schedulerId, .str m.resolution.name] :=
    Json.fields?_obj rfl (by decide)
  simp [ofJson?, hfields, Json.string?, Json.caseName?, Resolution.ofName?_name]

theorem TaskRef.ofJson?_toJson (m : TaskRef) (hv : m.deadline.Valid) :
  ofJson? m.toJson = some m
  := by
  have hfields : Json.fields? ["taskId", "provisionerId", "workerType", "deadline", "priority"]
      m.toJson = some [.str m.taskId.val, .str m.provisionerId.val, .str m.workerType.val,
        .str m.deadline.toText, .str m.priority.name] :=
    Json.fields?_obj rfl (by decide)
  simp [ofJson?, hfields, Json.string?, Json.caseName?, Json.instant?_toText hv,
    ProvisionerId.parse_val, WorkerType.parse_val, Priority.ofName?_name, Except.toOption]

/-! ### Message texts -/

namespace Codec

/-- What a message text is to a reader: canonical base64, read as the message it was written
from, with any blank characters around it. -/
def ReadsBack {α : Type} (read : Json → Option α) (j : Json) (a : α) : Prop :=
  Base64.Canonical (encode j).toList ∧
    ∀ ws ws' : List Char, (∀ c ∈ ws, Text.isBlank c = true) → (∀ c ∈ ws', Text.isBlank c = true) →
      decode read (String.ofList (ws ++ (encode j).toList ++ ws')) = .ok a

/-- The text of a flat object reads back as whatever the reader makes of the object. -/
theorem readsBack_obj {α : Type} (read : Json → Option α) {ms : List (String × Json)}
    (hms : ∀ m ∈ ms, Json.Scalar m.2) {a : α} (h : read (.obj ms) = some a) :
  ReadsBack read (.obj ms) a
  := by
  refine ⟨?_, fun ws ws' hws hws' => ?_⟩
  · rw [encode, String.toList_ofList]
    exact Base64.canonical_encode _
  · have hread := decode_encode_obj read hms h
    unfold decode at hread ⊢
    rw [decodeJson_around _ hws hws']
    exact hread

/-- Every message and task reference is read back from its text. -/
theorem texts_read_back :
  (∀ m : PendingHint, m.hintId.val < Nat.pow 2 128 →
      ReadsBack PendingHint.ofJson? m.toJson m) ∧
    (∀ m : ClaimNotice, m.takenUntil.Valid → ReadsBack ClaimNotice.ofJson? m.toJson m) ∧
    (∀ m : DeadlineNotice, m.deadline.Valid → ReadsBack DeadlineNotice.ofJson? m.toJson m) ∧
    (∀ m : ResolvedNotice, ReadsBack ResolvedNotice.ofJson? m.toJson m) ∧
    (∀ m : TaskRef, m.deadline.Valid → ReadsBack TaskRef.ofJson? m.toJson m)
  := by
  -- every member of every record is a string or a number
  have hscalar : ∀ {ms : List (String × Json)}, (∀ m ∈ ms, (∃ s, m.2 = .str s) ∨ ∃ n, m.2 = .nat n) →
      ∀ m ∈ ms, Json.Scalar m.2 := by
    intro ms h m hm
    rcases h m hm with ⟨s, hs⟩ | ⟨n, hn⟩
    · rw [hs]
      exact .str s
    · rw [hn]
      exact .nat n
  refine ⟨fun m hu => ?_, fun m hv => ?_, fun m hv => ?_, fun m => ?_, fun m hv => ?_⟩
  · exact readsBack_obj _ (hscalar (by simp)) (PendingHint.ofJson?_toJson m hu)
  · exact readsBack_obj _ (hscalar (by simp)) (ClaimNotice.ofJson?_toJson m hv)
  · exact readsBack_obj _ (hscalar (by simp)) (DeadlineNotice.ofJson?_toJson m hv)
  · exact readsBack_obj _ (hscalar (by simp)) (ResolvedNotice.ofJson?_toJson m)
  · exact readsBack_obj _ (hscalar (by simp)) (TaskRef.ofJson?_toJson m hv)

/-- One record of each kind, at the epoch, read back from its text. -/
theorem texts_read_back_at_epoch :
  ReadsBack PendingHint.ofJson? (PendingHint.toJson ⟨⟨"t1"⟩, 7, ⟨0⟩⟩) ⟨⟨"t1"⟩, 7, ⟨0⟩⟩ ∧
    ReadsBack ClaimNotice.ofJson? (ClaimNotice.toJson ⟨⟨"t1"⟩, 7, .epoch⟩) ⟨⟨"t1"⟩, 7, .epoch⟩ ∧
    ReadsBack DeadlineNotice.ofJson? (DeadlineNotice.toJson ⟨⟨"t1"⟩, "g1", "s1", .epoch⟩)
      ⟨⟨"t1"⟩, "g1", "s1", .epoch⟩ ∧
    ReadsBack ResolvedNotice.ofJson? (ResolvedNotice.toJson ⟨⟨"t1"⟩, "g1", "s1", .completed⟩)
      ⟨⟨"t1"⟩, "g1", "s1", .completed⟩ ∧
    ReadsBack TaskRef.ofJson?
      (TaskRef.toJson ⟨⟨"t1"⟩, ⟨"p1", by decide⟩, ⟨"w1", by decide⟩, .epoch, .high⟩)
      ⟨⟨"t1"⟩, ⟨"p1", by decide⟩, ⟨"w1", by decide⟩, .epoch, .high⟩
  := ⟨texts_read_back.1 _ (by decide), texts_read_back.2.1 _ Time.Instant.epoch_valid,
    texts_read_back.2.2.1 _ Time.Instant.epoch_valid, texts_read_back.2.2.2.1 _,
    texts_read_back.2.2.2.2 _ Time.Instant.epoch_valid⟩

end Codec

end TaskQueue

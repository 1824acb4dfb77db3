import LeaseQueue.Proofs.Clearing
import LeaseQueue.Proofs.Dispatch
import LeaseQueue.Proofs.Encoding
import LeaseQueue.Proofs.Evaluation
import LeaseQueue.Json.Shape

/-!
What a payload was made from is read from it again, by whoever receives the message and however often it was
handed back before.
-/

namespace LeaseQueue

namespace Json

namespace Node

open Text

theorem read?_write {value : Value} (exact : value.isExact = true) :
    read? (value.write.map Piece.char) = some (ofValue value) := by
  have read := readNode_write .last value exact (2 * (value.write.map Piece.char).length + 2)
    (by rw [List.length_map]; omega)
  rw [List.append_nil] at read
  rw [read?, read]
  rfl

theorem text?_ofValue (text : String) : (ofValue (.string text)).text? = some text :=
  StringUnit.text?_written text

theorem nat?_ofValue {number most : Nat} (fits : number ≤ most) (word : most < UInt64.size) :
    (ofValue (.int number)).nat? most = some number := by
  have exact : (Numeral.ofInt number).value? = some (.int number) :=
    Numeral.value?_ofInt (Int.le_trans (by decide) (Int.natCast_nonneg number)) (by omega)
  rw [ofValue, nat?, int?]
  simp only [exact, Int.natCast_nonneg, Int.ofNat_le, fits, and_self, if_true, Option.map_some,
    Int.toNat_natCast]

theorem fields?_ofValue (fields : List (String × Value)) :
    (ofValue (.object fields)).fields? = some (fields.map fun field => (field.1, ofValue field.2)) := by
  change (ofFields fields).mapM _ = _
  induction fields with
  | nil => rfl
  | cons field rest ih =>
      obtain ⟨name, value⟩ := field
      rw [ofFields, List.mapM_cons, ih]
      simp only [StringUnit.text?_written]
      rfl

theorem record?_ofValue (names : List String) (least : Nat) (fields : List (String × Value)) :
    (ofValue (.object fields)).record? names least =
      names.mapM (field? (fields.map fun field => (field.1, ofValue field.2))) := by
  change ((ofValue (.object fields)).fields?.bind fun found => names.mapM (field? found)) = _
  rw [fields?_ofValue, Option.bind_some]

end Node

open Node

theorem Order.ofNode?_toValue {order : Order} (word : order.id < limit32) :
    Order.ofNode? (ofValue order.toValue) = some order := by
  have id := nat?_ofValue (Nat.le_sub_one_of_lt word) (by decide)
  have sku := text?_ofValue order.sku
  have fields : (ofValue order.toValue).record? ["id", "sku"] 2 =
      some [some (ofValue (.int order.id)), some (ofValue (.string order.sku))] :=
    record?_ofValue _ _ _
  rw [ofNode?, fields]
  simp only [Option.bind_eq_bind, Option.bind_some, id, sku]

theorem Value.isExact_word {number : Nat} (word : number < limit32) :
    (Value.int number).isExact = true := by
  have low : -(Int.pow 2 63) ≤ (number : Int) := Int.le_trans (by decide) (Int.natCast_nonneg number)
  have high : (number : Int) < UInt64.size :=
    Int.ofNat_lt.mpr (Nat.lt_trans word (by decide : limit32 < UInt64.size))
  rw [isExact, decide_eq_true_eq]
  exact ⟨low, high⟩

theorem Order.isExact_toValue {order : Order} (word : order.id < limit32) :
    order.toValue.isExact = true := by
  have id := Value.isExact_word word
  rw [toValue, Value.isExact, Value.fieldsExact, id]
  rfl

namespace Invoice

theorem itemsExact_lines {lines : List (String × Nat)} (words : ∀ line ∈ lines, line.2 < limit32) :
    Value.itemsExact (lines.map lineToValue) = true := by
  induction lines with
  | nil => rfl
  | cons line rest ih =>
      have count := Value.isExact_word (words line List.mem_cons_self)
      have others := ih fun other member => words other (List.mem_cons_of_mem _ member)
      have own : (lineToValue line).isExact = true := by
        rw [lineToValue, Value.isExact, Value.itemsExact, Value.itemsExact, count]
        rfl
      rw [List.map_cons, Value.itemsExact, own, others]
      rfl

theorem isExact_toValue {invoice : Invoice} (words : ∀ line ∈ invoice.lines, line.2 < limit32) :
    invoice.toValue.isExact = true := by
  have lines : (Value.array (invoice.lines.map lineToValue)).isExact = true := itemsExact_lines words
  have note : ((invoice.note.map Value.string).getD .null).isExact = true := by
    cases invoice.note <;> rfl
  rw [toValue, Value.isExact]
  simp only [Value.fieldsExact, lines, note]
  rfl

theorem lineOfNode?_lineToValue {line : String × Nat} (word : line.2 < limit32) :
    lineOfNode? (ofValue (lineToValue line)) = some line := by
  have item := text?_ofValue line.1
  have count := nat?_ofValue (Nat.le_sub_one_of_lt word) (by decide)
  change ((ofValue (.string line.1)).text?.bind fun item =>
    ((ofValue (.int line.2)).nat? (limit32 - 1)).bind fun count => some (item, count)) = _
  rw [item, count]
  rfl

theorem list?_lines {lines : List (String × Nat)} (words : ∀ line ∈ lines, line.2 < limit32) :
    (ofValue (.array (lines.map lineToValue))).list? lineOfNode? = some lines := by
  change (ofItems (lines.map lineToValue)).mapM lineOfNode? = _
  induction lines with
  | nil => rfl
  | cons line rest ih =>
      rw [List.map_cons, ofItems, List.mapM_cons, lineOfNode?_lineToValue (words line List.mem_cons_self),
        ih fun other member => words other (List.mem_cons_of_mem _ member)]
      rfl

theorem ofNode?_toValue {invoice : Invoice} (words : ∀ line ∈ invoice.lines, line.2 < limit32) :
    Invoice.ofNode? (ofValue invoice.toValue) = some invoice := by
  have number := text?_ofValue invoice.number
  have lines := list?_lines words
  have note : (ofValue ((invoice.note.map Value.string).getD .null)).optional? text? =
      some invoice.note := by
    cases invoice.note with
    | none => rfl
    | some note => exact congrArg (Option.map some) (text?_ofValue note)
  have fields : (ofValue invoice.toValue).record? ["number", "lines", "paid", "note"] 4 =
      some [some (ofValue (.string invoice.number)),
        some (ofValue (.array (invoice.lines.map lineToValue))), some (ofValue (.bool invoice.paid)),
        some (ofValue ((invoice.note.map Value.string).getD .null))] :=
    record?_ofValue _ _ _
  rw [ofNode?, fields]
  simp only [Option.bind_eq_bind, Option.bind_some, number, lines, note, Option.getD_some]
  rfl

end Invoice

end Json

open Json

namespace Message

variable {message : Message} {value : Value}

theorem document?_of_payload (carries : message.payload = value.bytes) (exact : value.isExact = true) :
    message.document? = some (Node.ofValue value) := by
  rw [document?, carries, Value.bytes, Text.Utf8.pieces_encode, Text.Piece.ofString, Value.text,
    String.toList_ofList]
  exact Node.read?_write exact

theorem decode_of_payload {α : Type} {read : Node → Option α} {data : α}
    (carries : message.payload = value.bytes) (exact : value.isExact = true)
    (means : read (Node.ofValue value) = some data) : message.decode read = .ok data := by
  rw [decode, document?_of_payload carries exact, Option.bind_some, means]

theorem decode_congr {α : Type} {other : Message} (same : message.payload = other.payload)
    (read : Node → Option α) : message.decode read = other.decode read := by
  rw [decode, decode, document?, document?, same]

end Message

theorem Message.same_of_bare {message other : Message} (same : message.bare = other.bare) :
    message.id = other.id ∧ message.payload = other.payload := by
  injection same with id _ _ payload
  exact ⟨id, payload⟩

theorem Run.contents_sent (run : Run) :
    ∀ message, message ∈ run.queue.store.pending ∨
        message ∈ run.queue.store.leases.map Lease.message ∨ message ∈ run.chronicle.delivered →
      ∃ time sent, (time, Deed.sent sent) ∈ run.chronicle ∧ message.bare = sent.bare := by
  let known (bare : Message) : Prop :=
    ∃ time sent, (time, Deed.sent sent) ∈ run.chronicle ∧ bare = sent.bare
  have unused : run.fresh.store.Holds known := by simp [Store.Holds, fresh, Queue.ofSettings]
  obtain ⟨held, delivered⟩ := Queue.after_holds unused run.history
    fun time message listed => ⟨time, message, listed, rfl⟩
  rw [← run.queue_eq] at held
  rintro message (pending | leased | received)
  · exact held message (List.mem_append_left _ pending)
  · exact held message (List.mem_append_right _ leased)
  · exact delivered message received

/-- A message is handed back, and received again. -/
structure Turnover where
  abandonedAt : Instant
  receivedAt : Instant
  timeout : Duration

/-- Whether each lease still runs when its message is handed back, the first by a term of its own. -/
def Term.Outlasts : Term → List Turnover → Prop
  | _, [] => True
  | term, turn :: rest =>
    term.isExpired turn.abandonedAt = false ∧ (Term.grant turn.timeout turn.receivedAt).Outlasts rest

namespace Queue

def turnOver (queue : Queue) (held : Message) : List Turnover → Option (Message × Queue)
  | [] => some (held, queue)
  | turn :: rest =>
    ((queue.abandon held turn.abandonedAt).2.take? turn.timeout turn.receivedAt).bind
      fun (received, next) => next.turnOver received rest

variable {queue : Queue}

theorem take?_sole {sole : Message} (alone : queue.store.pending = [sole]) (timeout : Duration)
    (now : Instant) :
    ∃ received next, queue.take? timeout now = some (received, next) ∧ received.bare = sole.bare ∧
      next.store.pending = [] ∧
      ∃ token, next.leaseOf? received = some ⟨token, received, Term.grant timeout now⟩ := by
  have taken := take?_of_pending alone timeout now
  exact ⟨_, _, taken, rfl, rfl, _, (leaseOf?_taken taken).2⟩

theorem turnOver_returns {held : Message} {token : Token} {term : Term}
    (leased : queue.leaseOf? held = some ⟨token, held, term⟩) (empty : queue.store.pending = [])
    (turns : List Turnover) (live : term.Outlasts turns) :
    ∃ last next, queue.turnOver held turns = some (last, next) ∧ last.bare = held.bare := by
  -- Each receive grants the lease that the next abandon ends, under whatever token comes next.
  induction turns generalizing queue held token term with
  | nil => exact ⟨held, queue, rfl, rfl⟩
  | cons turn rest ih =>
      obtain ⟨running, later⟩ := live
      have returned := abandon_of_running leased running
      have alone : (queue.abandon held turn.abandonedAt).2.store.pending =
          [held.withoutToken.stamped turn.abandonedAt] := by
        rw [returned]
        simp [empty]
      obtain ⟨received, next, taken, same, nothing, _, again⟩ :=
        take?_sole alone turn.timeout turn.receivedAt
      obtain ⟨last, final, turned, kept⟩ := ih again nothing later
      refine ⟨last, final, ?_, kept.trans same⟩
      rw [turnOver, taken]
      exact turned

end Queue

/-- A message that was made from a value, an order or an invoice is read as just that, with the fields of
objects in the order of their names. Whatever happens to a queue, a message that it holds or hands out is
read as those were that were sent under its id; and one that is received, handed back in time and received
again, as often as you like, is read as the one that was made. -/
theorem payload_round_trips (id : MessageId) (correlationId kind : String) :
    let made := Message.ofValue id correlationId kind
    (∀ value : Value, value.isExact = true → value.depth ≤ Value.mostOpen →
      (made value).decode (Value.ofNode? Value.mostOpen) = .ok value.ordered ∧
      (value.isOrdered = true → (made value).decode (Value.ofNode? Value.mostOpen) = .ok value)) ∧
    (∀ order : Order, order.id < limit32 → (made order.toValue).decode Order.ofNode? = .ok order) ∧
    (∀ invoice : Invoice, (∀ line ∈ invoice.lines, line.2 < limit32) →
      (made invoice.toValue).decode Invoice.ofNode? = .ok invoice) ∧
    (∀ (run : Run) (value : Value),
      (∀ time sent, (time, Deed.sent sent) ∈ run.chronicle → sent.id = id →
        sent.payload = value.bytes) →
      ∀ message, (message ∈ run.queue.store.pending ∨
          message ∈ run.queue.store.leases.map Lease.message ∨ message ∈ run.chronicle.delivered) →
        message.id = id → ∀ {α : Type} (read : Node → Option α),
          message.decode read = (made value).decode read) ∧
    ∀ (queue : Queue) (value : Value), queue.store.pending = [] →
      ∀ sentAt timeout receivedAt turns, (Term.grant timeout receivedAt).Outlasts turns →
        ∃ received next last final,
          (queue.send (made value) sentAt).take? timeout receivedAt = some (received, next) ∧
          next.turnOver received turns = some (last, final) ∧
          ∀ {α : Type} (read : Node → Option α), last.decode read = (made value).decode read := by
  intro made
  have carries (value : Value) : (made value).payload = value.bytes := rfl
  refine ⟨?_, ?_, ?_, ?_, ?_⟩
  · intro value exact shallow
    have read := Message.decode_of_payload (carries value) exact
      (Value.ofNode?_ofValue value exact Value.mostOpen shallow)
    exact ⟨read, fun inOrder => by rw [read, Value.ordered_of_isOrdered value inOrder]⟩
  · intro order word
    exact Message.decode_of_payload (carries _) (Order.isExact_toValue word) (Order.ofNode?_toValue word)
  · intro invoice words
    exact Message.decode_of_payload (carries _) (Invoice.isExact_toValue words)
      (Invoice.ofNode?_toValue words)
  · intro run value sends message present named α read
    obtain ⟨time, sent, listed, same⟩ := run.contents_sent message present
    obtain ⟨sameId, samePayload⟩ := Message.same_of_bare same
    refine Message.decode_congr ?_ read
    rw [samePayload, sends time sent listed (sameId.symm.trans named), carries]
  · intro queue value empty sentAt timeout receivedAt turns live
    have alone : (queue.send (made value) sentAt).store.pending = [(made value).stamped sentAt] := by
      change queue.store.pending ++ _ = _
      rw [empty, List.nil_append]
    obtain ⟨received, next, taken, same, nothing, token, leased⟩ :=
      Queue.take?_sole alone timeout receivedAt
    obtain ⟨last, final, turned, kept⟩ := Queue.turnOver_returns leased nothing turns live
    have payload : last.payload = (made value).payload := (Message.same_of_bare (kept.trans same)).2
    exact ⟨received, next, last, final, taken, turned, Message.decode_congr payload⟩

def Json.Value.extremes : Value :=
  .object [("\n", .array [.int (-9223372036854775808), .int 18446744073709551615, .array []]),
    ("a\"\\", .object [("", .null), ("\x00\x08\x1f", .bool false)]),
    ("\x7f\u00e9\u20ac", .string "\t\uffff𝄞")]

theorem payload_round_trips_extremes (id : MessageId) :
    Value.extremes.isExact = true ∧ Value.extremes.depth ≤ Value.mostOpen ∧
      Value.extremes.isOrdered = true ∧
      (Message.ofValue id "c" "job" Value.extremes).decode (Value.ofNode? Value.mostOpen) =
        .ok Value.extremes := by
  have exact : Value.extremes.isExact = true := by decide
  have shallow : Value.extremes.depth ≤ Value.mostOpen := by decide
  have inOrder : Value.extremes.isOrdered = true := by decide
  obtain ⟨values, _⟩ := payload_round_trips id "c" "job"
  exact ⟨exact, shallow, inOrder, (values Value.extremes exact shallow).2 inOrder⟩

end LeaseQueue

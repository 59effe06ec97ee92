import Mathlib.Data.List.Perm.Basic
import TokenGate.Proofs.Json.Completeness
import TokenGate.Proofs.Message.Consumption
import TokenGate.Proofs.Text.Utf8
import TokenGate.Proofs.Value.Written

/-! Which payloads are messages, and which message each of them is. A payload is one if its text is
that of an object with a text for each of two fields, and then nothing of what it says is lost.
-/

set_option autoImplicit false

namespace TokenGate

namespace InboundMessage

open Members (LastWritten names)

variable {pairs : Members} {tag name under other : Text} {v w : Value}
  {message : InboundMessage}

/-- The value of a field among members as they are written, and the name under which it comes. The
tag wins. -/
inductive Field (pairs : Members) (tag name : Text) : Text → Value → Prop where
  | tagged {v : Value} : LastWritten pairs tag v → Field pairs tag name tag v
  | named {v : Value} : tag ∉ pairs.map (·.1) → LastWritten pairs name v →
      Field pairs tag name name v

def Taken (pairs : Members) (under : Text) : Prop :=
  under = "payload" ∨ (∃ v, Field pairs "@id" "id" under v) ∨
    ∃ v, Field pairs "@type" "type" under v

/-- A message says what the members say, as they are written. -/
structure SentAs (pairs : Members) (message : InboundMessage) : Prop where
  id : ∃ under, Field pairs "@id" "id" under (.str message.id)
  type : ∃ under, Field pairs "@type" "type" under (.str message.type)
  payload : ∀ v, message.payload = some v ↔ LastWritten pairs "payload" v
  kept : ∀ name v, (name, v) ∈ message.extras ↔ LastWritten pairs name v ∧ ¬ Taken pairs name
  /-- Each name once, in the order in which they first come. -/
  order : (message.extras.map (·.1)).Sublist (names pairs)

theorem tagged?_eq_some_iff :
    tagged? (Members.ofPairs pairs) tag name = some (under, v) ↔ Field pairs tag name under v := by
  have absent : Members.get? (Members.ofPairs pairs) tag = none ↔ tag ∉ pairs.map (·.1) := by
    rw [Members.get?_eq_none_iff, Members.names_ofPairs, Members.mem_names]
  constructor
  · intro field
    unfold tagged? at field
    split at field
    · next v found =>
      cases field
      exact .tagged (Members.get?_ofPairs_eq_some_iff.mp found)
    · next missing =>
      obtain ⟨v, found, same⟩ := Option.map_eq_some_iff.mp field
      cases same
      exact .named (absent.mp missing) (Members.get?_ofPairs_eq_some_iff.mp found)
  · intro field
    cases field with
    | tagged written => rw [tagged?, Members.get?_ofPairs_eq_some_iff.mpr written]
    | named missing written =>
      rw [tagged?, absent.mpr missing, Members.get?_ofPairs_eq_some_iff.mpr written]
      rfl

theorem Field.unique (first : Field pairs tag name under v)
    (second : Field pairs tag name other w) : under = other ∧ v = w := by
  have same := (tagged?_eq_some_iff.mpr first).symm.trans (tagged?_eq_some_iff.mpr second)
  simpa using same

/-- What stays among the extras once the names of both fields are known. -/
theorem taken_iff {idName typeName : Text} (id : Field pairs "@id" "id" idName v)
    (type : Field pairs "@type" "type" typeName w) :
    Taken pairs under ↔ under ∈ [idName, typeName, "payload"] := by
  have idTaken : (∃ v, Field pairs "@id" "id" under v) ↔ under = idName :=
    ⟨fun ⟨_, field⟩ => (field.unique id).1, fun same => ⟨v, same ▸ id⟩⟩
  have typeTaken : (∃ v, Field pairs "@type" "type" under v) ↔ under = typeName :=
    ⟨fun ⟨_, field⟩ => (field.unique type).1, fun same => ⟨w, same ▸ type⟩⟩
  rw [Taken, idTaken, typeTaken, or_comm]
  simp [or_assoc]

theorem ofMembers?_eq_some_iff {ms : Members} : ofMembers? ms = some message ↔
    ∃ idName typeName, tagged? ms "@id" "id" = some (idName, .str message.id) ∧
      tagged? ms "@type" "type" = some (typeName, .str message.type) ∧
      message.payload = Members.get? ms "payload" ∧
      message.extras = ms.filter fun m => !([idName, typeName, "payload"].contains m.1) := by
  constructor
  · intro read
    unfold ofMembers? at read
    split at read
    · next idName id typeName type first second =>
      cases read
      exact ⟨idName, typeName, first, second, rfl, rfl⟩
    · cases read
  · obtain ⟨id, type, payload, extras⟩ := message
    rintro ⟨idName, typeName, first, second, rfl, rfl⟩
    simp only [ofMembers?, first, second]

theorem sentAs_of_ofMembers? (read : ofMembers? (Members.ofPairs pairs) = some message) :
    message.SentAs pairs := by
  obtain ⟨idName, typeName, id, type, payload, extras⟩ := ofMembers?_eq_some_iff.mp read
  rw [tagged?_eq_some_iff] at id type
  constructor
  case id => exact ⟨idName, id⟩
  case type => exact ⟨typeName, type⟩
  case payload => exact fun v => by rw [payload, Members.get?_ofPairs_eq_some_iff]
  case kept =>
    intro name v
    rw [extras, List.mem_filter, Members.mem_ofPairs_iff, taken_iff id type]
    simp
  case order =>
    rw [extras, ← Members.names_ofPairs]
    exact List.filter_sublist.map _

theorem SentAs.extras_eq (sent : message.SentAs pairs) : message.extras =
    (message.extras.map (·.1)).map fun name =>
      (name, ((Members.ofPairs pairs).get? name).getD .null) := by
  have told : ∀ m ∈ message.extras,
      (m.1, ((Members.ofPairs pairs).get? m.1).getD .null) = m := by
    intro m member
    obtain ⟨written, -⟩ := (sent.kept m.1 m.2).mp member
    rw [Members.get?_ofPairs_eq_some_iff.mpr written]
    rfl
  rw [List.map_map]
  exact (List.map_id _).symm.trans (List.map_congr_left fun m member => (told m member).symm)

theorem SentAs.names_eq {first second : InboundMessage} (left : first.SentAs pairs)
    (right : second.SentAs pairs) : first.extras.map (·.1) = second.extras.map (·.1) := by
  have distinct := Members.nodup_names pairs
  rw [← distinct.perm_iff_eq_of_sublist left.order right.order,
    List.perm_ext_iff_of_nodup (distinct.sublist left.order) (distinct.sublist right.order)]
  have member : ∀ m, m ∈ first.extras ↔ m ∈ second.extras :=
    fun ⟨name, v⟩ => (left.kept name v).trans (right.kept name v).symm
  simp only [List.mem_map, member, implies_true]

theorem SentAs.unique {first second : InboundMessage} (left : first.SentAs pairs)
    (right : second.SentAs pairs) : first = second := by
  obtain ⟨_, idLeft⟩ := left.id
  obtain ⟨_, idRight⟩ := right.id
  obtain ⟨_, typeLeft⟩ := left.type
  obtain ⟨_, typeRight⟩ := right.type
  have id : first.id = second.id := Text.proper.inj (Value.str.inj (idLeft.unique idRight).2)
  have type : first.type = second.type :=
    Text.proper.inj (Value.str.inj (typeLeft.unique typeRight).2)
  have payload : first.payload = second.payload :=
    Option.ext fun v => (left.payload v).trans (right.payload v).symm
  have extras : first.extras = second.extras := by
    rw [left.extras_eq, right.extras_eq, left.names_eq right]
  cases first
  cases second
  simp_all only

def Acceptable (pairs : Members) : Prop :=
  (∃ (under : Text) (id : String), Field pairs "@id" "id" under (.str id)) ∧
    ∃ (under : Text) (type : String), Field pairs "@type" "type" under (.str type)

theorem SentAs.acceptable (sent : message.SentAs pairs) : Acceptable pairs := by
  obtain ⟨idName, first⟩ := sent.id
  obtain ⟨typeName, second⟩ := sent.type
  exact ⟨⟨idName, _, first⟩, typeName, _, second⟩

theorem acceptable_iff : Acceptable pairs ↔
    ∃ message, ofMembers? (Members.ofPairs pairs) = some message := by
  refine ⟨?_, fun ⟨message, read⟩ => (sentAs_of_ofMembers? read).acceptable⟩
  rintro ⟨⟨idName, id, first⟩, typeName, type, second⟩
  exact ⟨⟨id, type, _, _⟩, ofMembers?_eq_some_iff.mpr ⟨idName, typeName,
    tagged?_eq_some_iff.mpr first, tagged?_eq_some_iff.mpr second, rfl, rfl⟩⟩

theorem sentAs_iff : message.SentAs pairs ↔ ofMembers? (Members.ofPairs pairs) = some message := by
  refine ⟨fun sent => ?_, sentAs_of_ofMembers?⟩
  obtain ⟨other, read⟩ := acceptable_iff.mp sent.acceptable
  rw [sent.unique (sentAs_of_ofMembers? read), read]

end InboundMessage

namespace Payload

namespace Stream

inductive Shows : Stream → List Char → Prop where
  | text (s : String) : Shows (.text s) s.toList
  | octets (cs : List Char) : Shows (.octets (Utf8.encode cs)) cs

variable {s : Stream} {cs : List Char} {content : Content} {message : InboundMessage}

theorem characters?_eq_some_iff : s.characters? = some cs ↔ s.Shows cs := by
  cases s with
  | text t =>
    constructor
    · intro read
      cases t with
      | proper s =>
        cases read
        exact .text s
      | halved t => cases read
    · rintro ⟨⟩
      rfl
  | octets bytes =>
    rw [characters?, Utf8.decode?_eq_some_iff]
    constructor
    · rintro rfl
      exact .octets cs
    · rintro ⟨⟩
      rfl

def Sends (s : Stream) (message : InboundMessage) : Prop :=
  ∃ cs pairs, s.Shows cs ∧ Json.ObjectText dialect (cs.map .char) pairs ∧ message.SentAs pairs

theorem content?_inbound_iff : s.content? .inbound = some content ↔
    ∃ message, s.Sends message ∧ content = .inbound message := by
  have object : ∀ (cs : List Char) (ms : Members),
      Json.read dialect (cs.map .char) = .ok (.object ms) ↔
        ∃ pairs, Json.ObjectText dialect (cs.map .char) pairs ∧ ms = Members.ofPairs pairs :=
    fun cs ms => Json.read_object_iff rfl (by decide)
  -- Grammar and reader agree on objects, and no other value is a message.
  constructor
  · intro read
    obtain ⟨cs, characters, judged⟩ := Option.bind_eq_some_iff.mp read
    cases parsed : Json.read dialect (cs.map .char) with
    | error =>
      rw [parsed] at judged
      cases judged
    | ok v =>
      rw [parsed] at judged
      obtain ⟨message, valued, rfl⟩ := Option.map_eq_some_iff.mp judged
      cases v with
      | object ms =>
        obtain ⟨pairs, text, rfl⟩ := (object cs ms).mp parsed
        exact ⟨message, ⟨cs, pairs, characters?_eq_some_iff.mp characters, text,
          InboundMessage.sentAs_iff.mpr valued⟩, rfl⟩
      | _ => cases valued
  · rintro ⟨message, ⟨cs, pairs, shows, text, sent⟩, rfl⟩
    have read := (object cs _).mpr ⟨pairs, text, rfl⟩
    simp [content?, characters?_eq_some_iff.mpr shows, read, Except.toOption, shape?,
      InboundMessage.ofValue?, InboundMessage.sentAs_iff.mp sent]

theorem sends_some_iff : (∃ message, s.Sends message) ↔
    ∃ cs pairs, s.Shows cs ∧ Json.ObjectText dialect (cs.map .char) pairs ∧
      InboundMessage.Acceptable pairs := by
  constructor
  · rintro ⟨message, cs, pairs, shows, text, sent⟩
    exact ⟨cs, pairs, shows, text, sent.acceptable⟩
  · rintro ⟨cs, pairs, shows, text, acceptable⟩
    obtain ⟨message, read⟩ := InboundMessage.acceptable_iff.mp acceptable
    exact ⟨message, cs, pairs, shows, text, InboundMessage.sentAs_iff.mpr read⟩

theorem readAs_inbound (s : Stream) :
    (∃ message, s.Sends message ∧ (s.readAs .inbound).1 = .ok (.inbound message)) ∨
      (∀ message, ¬ s.Sends message) ∧ (s.readAs .inbound).1 = Target.inbound.unreadable := by
  cases read : s.content? .inbound with
  | some content =>
    obtain ⟨message, sends, rfl⟩ := content?_inbound_iff.mp read
    exact .inl ⟨message, sends, by rw [readAs, read]⟩
  | none =>
    refine .inr ⟨fun message sends => ?_, by rw [readAs, read]; rfl⟩
    cases read.symm.trans (content?_inbound_iff.mpr ⟨message, sends, rfl⟩)

theorem Sends.unique {first second : InboundMessage} (left : s.Sends first)
    (right : s.Sends second) : first = second := by
  have same := (content?_inbound_iff.mpr ⟨first, left, rfl⟩).symm.trans
    (content?_inbound_iff.mpr ⟨second, right, rfl⟩)
  cases same
  rfl

/-- A payload is read as a message exactly if it is the text of an object with a text for each of
two fields, and then as the message that the members say. Any other payload is refused. -/
theorem message_grammar (s : Stream) :
    (∀ message, (s.readAs .inbound).1 = .ok (.inbound message) ↔ s.Sends message) ∧
    ((∃ message, s.Sends message) ↔ ∃ cs pairs, s.Shows cs ∧
      Json.ObjectText dialect (cs.map .char) pairs ∧ InboundMessage.Acceptable pairs) ∧
    ((∀ message, ¬ s.Sends message) ↔ ∃ fault, (s.readAs .inbound).1 = .error fault ∧
      fault.kind = .payloadDeserialization ∧
      fault.message = "Cannot read payload as InboundMessage") := by
  -- By what becomes of the stream; both sides of each part are told by that.
  obtain ⟨message, sends, read⟩ | ⟨nothing, refused⟩ := s.readAs_inbound
  · rw [read]
    refine ⟨fun other => ⟨?_, fun too => ?_⟩, sends_some_iff, fun nothing => ?_, ?_⟩
    · rintro ⟨⟩
      exact sends
    · rw [sends.unique too]
    · exact absurd sends (nothing message)
    · rintro ⟨_, ⟨⟩, -⟩
  · rw [refused]
    refine ⟨fun other => ⟨?_, fun sends => absurd sends (nothing other)⟩, sends_some_iff,
      fun _ => ⟨_, rfl, rfl, rfl⟩, fun _ => nothing⟩
    rintro ⟨⟩

-- The tag wins, and what else the name says is kept.
example :
    let sent := "\x7b\"id\": 1, \"@id\": \"a\", \"type\": \"t\", \"id\": null\x7d"
    ((text sent).readAs .inbound).1 =
      .ok (.inbound ⟨"a", "t", none, [("id", .null)]⟩) := by
  rfl

end Stream

end Payload

end TokenGate

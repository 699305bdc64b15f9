import HostingBilling.Gateway.Event
import HostingBilling.Proofs.Json.Additions
import Mathlib.Logic.Relation

/-!
# Events that grow

What is read of an event depends on its type: the identifier and the type, and for the types that are followed
the fields of one object, with the lists, the evidence and the references in it. Main statement: an event tells
the same, or fails with the same text, whatever members its gateway adds beside those that are read, and
whether it names a payment intent by its identifier or sends the whole object.
-/

namespace HostingBilling

open Json (Reading Edit Steady Reads Akin steady_whole steady_record)

namespace Gateway

/-! ## What is read -/

def SessionObject.reading : List (String × Reading) := [
  ("id", .whole),
  ("payment_intent", .reference),
  ("client_reference_id", .whole),
  ("metadata", .whole),
  ("amount_total", .whole),
  ("currency", .whole)]

def IntentObject.reading : List (String × Reading) := [("id", .whole)]

def RefundObject.reading : List (String × Reading) := [
  ("id", .whole),
  ("amount", .whole),
  ("reason", .whole),
  ("status", .whole),
  ("payment_intent", .reference)]

def refundsReading : List (String × Reading) := [("data", .items (.record RefundObject.reading))]

def ChargeObject.reading : List (String × Reading) := [
  ("payment_intent", .reference),
  ("refunds", .record refundsReading)]

def evidenceReading : List (String × Reading) := [("due_by", .whole)]

def DisputeObject.reading : List (String × Reading) := [
  ("id", .whole),
  ("amount", .whole),
  ("reason", .whole),
  ("status", .whole),
  ("payment_intent", .reference),
  ("evidence_details", .record evidenceReading)]

/-- What is read of the object of an event of this type; nothing if the type is not followed. -/
def objectReading : String → Option (List (String × Reading))
  | "checkout.session.completed" => some SessionObject.reading
  | "payment_intent.payment_failed" => some IntentObject.reading
  | "charge.refunded" => some ChargeObject.reading
  | "charge.refund.updated" => some RefundObject.reading
  | "charge.dispute.created" => some DisputeObject.reading
  | "charge.dispute.updated" => some DisputeObject.reading
  | "charge.dispute.closed" => some DisputeObject.reading
  | _ => none

/-- What is read of an event of this type. -/
def eventReading (kind : String) : List (String × Reading) :=
  ("id", .whole) :: ("type", .whole) ::
    match objectReading kind with
    | some fields => [("data", .record [("object", .record fields)])]
    | none => []

/-- The type that a document gives itself. -/
def kindOf (v : Json) : String :=
  match v.member? "type" with
  | some (.text kind) => kind
  | _ => ""

/-- One change that the gateway may make to an event. -/
def Change (v v' : Json) : Prop := Edit (.record (eventReading (kindOf v))) v v'

end Gateway

/-- What reading a document comes to: the identifier and the type of the event with what it tells, or why it is
no event. -/
def GatewayEvent.told (v : Json) : Except Failure (EventId × String × Except Failure Notification) :=
  (ofJson v).map fun e => (e.id, e.kind, e.parse)

namespace Gateway

/-! ## The decoders are steady -/

theorem steady_reference : Steady asReference .reference := by
  intro v v' edit
  cases edit with
  | enlarge unread before after x =>
    simp only [asReference, Json.lookup_add unread.symm]
  | expand id => simp only [asReference, id]

theorem steady_session : Steady SessionObject.decode (.record SessionObject.reading) := by
  have reads : Reads SessionObject.shape.fields SessionObject.reading :=
    .plain <| .cons (steady_reference.asOptional.check _) <| .plain <| .plain <| .plain <| .plain <| .nil _
  refine steady_record reads fun m m' akin => ?_
  rw [akin.need "id" rfl (steady_whole _), akin.optional "payment_intent" rfl steady_reference,
    akin.optional "client_reference_id" rfl (steady_whole _), akin.optional "metadata" rfl (steady_whole _),
    akin.optional "amount_total" rfl (steady_whole _), akin.optional "currency" rfl (steady_whole _)]

theorem steady_intent : Steady IntentObject.decode (.record IntentObject.reading) := by
  have reads : Reads IntentObject.shape.fields IntentObject.reading := .plain <| .nil _
  refine steady_record reads fun m m' akin => ?_
  rw [akin.need "id" rfl (steady_whole _)]

theorem steady_refund : Steady RefundObject.decode (.record RefundObject.reading) := by
  have reads : Reads RefundObject.shape.fields RefundObject.reading :=
    .plain <| .plain <| .plain <| .plain <| .cons (steady_reference.asOptional.check _) <| .nil _
  refine steady_record reads fun m m' akin => ?_
  rw [akin.need "id" rfl (steady_whole _), akin.need "amount" rfl (steady_whole _),
    akin.optional "reason" rfl (steady_whole _), akin.optional "status" rfl (steady_whole _),
    akin.optional "payment_intent" rfl steady_reference]

theorem steady_refunds : Steady asRefunds (.record refundsReading) := by
  have reads : Reads refundList.fields refundsReading := .cons (steady_refund.asList.check "data") <| .nil _
  refine steady_record reads fun m m' akin => ?_
  rw [akin.needOr "data" rfl steady_refund.asList]

theorem steady_charge : Steady ChargeObject.decode (.record ChargeObject.reading) := by
  have reads : Reads ChargeObject.shape.fields ChargeObject.reading :=
    .cons (steady_reference.asOptional.check _) <| .cons (steady_refunds.asOptional.check _) <| .nil _
  refine steady_record reads fun m m' akin => ?_
  rw [akin.optional "payment_intent" rfl steady_reference, akin.optional "refunds" rfl steady_refunds]

theorem steady_evidence : Steady asEvidence (.record evidenceReading) := by
  have reads : Reads evidence.fields evidenceReading := .plain <| .nil _
  refine steady_record reads fun m m' akin => ?_
  rw [akin.optional "due_by" rfl (steady_whole _)]

theorem steady_dispute : Steady DisputeObject.decode (.record DisputeObject.reading) := by
  have reads : Reads DisputeObject.shape.fields DisputeObject.reading :=
    .plain <| .plain <| .plain <| .plain <| .cons (steady_reference.asOptional.check _) <|
      .cons (steady_evidence.asOptional.check _) <| .nil _
  refine steady_record reads fun m m' akin => ?_
  rw [akin.need "id" rfl (steady_whole _), akin.need "amount" rfl (steady_whole _),
    akin.optional "reason" rfl (steady_whole _), akin.need "status" rfl (steady_whole _),
    akin.optional "payment_intent" rfl steady_reference, akin.optional "evidence_details" rfl steady_evidence]

/-! ## Events -/

variable {v v' : Json} {kind : String} {e e' : GatewayEvent}

/-- The two texts of an envelope. -/
def envelopeOf : Json.Decoder (String × String) := fun v => do
  let m ← envelope.read v
  return (← Json.need m "id" Json.asText, ← Json.need m "type" Json.asText)

theorem steady_envelope (kind : String) : Steady envelopeOf (.record (eventReading kind)) := by
  have reads : Reads envelope.fields (eventReading kind) := .plain <| .plain <| .nil _
  refine steady_record reads fun m m' akin => ?_
  rw [akin.need "id" rfl (steady_whole _), akin.need "type" rfl (steady_whole _)]

/-- An event whose document can be edited is of the type that the document gives itself. -/
theorem kindOf_envelope {id : String} (read : envelopeOf v = .ok (id, kind)) (h : Change v v') :
    kindOf v = kind := by
  have object {members : List (String × Json)} (read : envelopeOf (.object members) = .ok (id, kind)) :
      kindOf (.object members) = kind := by
    obtain ⟨m, checked, read⟩ := Json.bind_eq_ok.mp read
    obtain ⟨_, -, checked⟩ := Json.bind_eq_ok.mp checked
    cases checked
    obtain ⟨_, -, read⟩ := Json.bind_eq_ok.mp read
    obtain ⟨text, named, read⟩ := Json.bind_eq_ok.mp read
    cases read
    obtain ⟨x, found, is⟩ := Json.need_eq_ok.mp named
    rw [kindOf, show Json.member? "type" (.object members) = some x from found, Json.asText_eq_ok.mp is]
  generalize fields : eventReading (kindOf v) = reading at h
  cases h with
  | add => exact object read
  | member => exact object read
  | @position _ key r x x' before among inner after =>
    -- an array has no member that names its type, so that only its first two items are read, and those whole
    have plain : eventReading (kindOf (.array (before ++ x :: after))) =
        [("id", .whole), ("type", .whole)] := rfl
    rw [plain] at among
    have place := List.mem_of_getElem? among
    obtain rfl : r = .whole := by
      rcases List.mem_pair.mp place with is | is <;> exact (Prod.mk.inj is).2
    cases inner

theorem object_edit {reading : List (String × Reading)} {decode : Json.Decoder α}
    (steady : Steady decode (.record reading)) (reads : objectReading e.kind = some reading) (same : e'.kind = e.kind)
    (edit : Edit (.record (eventReading e.kind)) e.payload e'.payload) : e.object decode = e'.object decode := by
  have data : (eventReading e.kind).lookup "data" = some (.record [("object", .record reading)]) := by
    simp [eventReading, reads, List.lookup_cons]
  have object : [("object", Reading.record reading)].lookup "object" = some (.record reading) := rfl
  have at_ (x : Json) : Json.at? ["data", "object"] x = (x.member? "data").bind (Json.member? "object") := by
    simp [Json.at?]
  unfold GatewayEvent.object
  rw [at_, at_, same]
  rcases edit.member? data with alike | ⟨d, d', before, after, inner⟩
  · rw [alike]
  · rw [before, after]
    dsimp only [Option.bind_some]
    rcases inner.member? object with alike | ⟨x, x', before, after, inner⟩
    · rw [alike]
    · rw [before, after]
      dsimp only
      rw [steady inner]

/-- An event tells the same when its document is edited. -/
theorem parse_edit (same : e'.kind = e.kind)
    (edit : Edit (.record (eventReading e.kind)) e.payload e'.payload) : e.parse = e'.parse := by
  have dispute (reads : objectReading e.kind = some DisputeObject.reading) :
      GatewayEvent.parse.dispute e = GatewayEvent.parse.dispute e' := by
    unfold GatewayEvent.parse.dispute
    rw [object_edit steady_dispute reads same edit]
  unfold GatewayEvent.parse
  rw [same]
  split
  · next is => rw [object_edit steady_session (is ▸ rfl) same edit]
  · next is => rw [object_edit steady_intent (is ▸ rfl) same edit]
  · next is => rw [object_edit steady_charge (is ▸ rfl) same edit]
  · next is => rw [object_edit steady_refund (is ▸ rfl) same edit]
  · next is => exact dispute (is ▸ rfl)
  · next is => exact dispute (is ▸ rfl)
  · next is => exact dispute (is ▸ rfl)
  · rfl

theorem told_eq (v : Json) : GatewayEvent.told v = match envelopeOf v with
    | .error text => .error (.malformedPayload ("event envelope: " ++ text))
    | .ok (id, kind) => (EventId.ofText id).map fun id => (id, kind, (GatewayEvent.mk id kind v).parse) := by
  have read : GatewayEvent.ofJson v = match envelopeOf v with
      | .error text => .error (.malformedPayload ("event envelope: " ++ text))
      | .ok (id, kind) => (do return ⟨← EventId.ofText id, kind, v⟩) := rfl
  rw [GatewayEvent.told, read]
  rcases envelopeOf v with text | ⟨id, kind⟩
  · rfl
  · dsimp only
    cases EventId.ofText id <;> rfl

theorem told_change (h : Change v v') : GatewayEvent.told v = GatewayEvent.told v' := by
  rw [told_eq, told_eq, ← steady_envelope _ h]
  rcases read : envelopeOf v with text | ⟨id, kind⟩
  · rfl
  · have is := kindOf_envelope read h
    have parsed (id : EventId) : (GatewayEvent.mk id kind v).parse = (GatewayEvent.mk id kind v').parse :=
      parse_edit rfl (is ▸ h)
    simp only [parsed]

/-! ## Events with an object -/

/-- What stands before and after a member of an object. -/
abbrev Around := List (String × Json) × List (String × Json)

/-- The document of an event with this object. -/
def holding (top data : Around) (object : Json) : Json :=
  .object (top.1 ++ ("data", .object (data.1 ++ ("object", object) :: data.2)) :: top.2)

/-- The document of an event whose object refers to a payment intent. -/
def referring (top data object : Around) (intent : Json) : Json :=
  holding top data (.object (object.1 ++ ("payment_intent", intent) :: object.2))

section holding

variable (top data : Around)

theorem kindOf_holding (object : Json) : kindOf (holding top data object) = kindOf (.object (top.1 ++ top.2)) := by
  have apart : Json.member? "type" (holding top data object) = Json.member? "type" (.object (top.1 ++ top.2)) :=
    Json.lookup_add (by decide) _ _ _
  rw [kindOf, apart, kindOf]

/-- An edit of the object is a change of the event. -/
theorem change_holding {object object' : Json}
    (reads : objectReading (kindOf (.object (top.1 ++ top.2))) = some reading)
    (edit : Edit (.record reading) object object') : Change (holding top data object) (holding top data object') := by
  have fields : (eventReading (kindOf (holding top data object))).lookup "data" =
      some (.record [("object", .record reading)]) := by
    simp [eventReading, kindOf_holding, reads, List.lookup_cons]
  exact .member fields (.member rfl edit _ _) _ _

/-- Of an event that is not followed the data are not read. -/
theorem told_holding (unread : objectReading (kindOf (.object (top.1 ++ top.2))) = none) (object : Json) :
    GatewayEvent.told (holding top data object) = GatewayEvent.told (.object (top.1 ++ top.2)) := by
  refine (told_change (.add ?_ _ _ _)).symm
  simp [eventReading, unread]

theorem objectReading_intent {fields : List (String × Reading)} (reads : objectReading kind = some fields) :
    fields.lookup "payment_intent" = some .reference ∨ "payment_intent" ∉ fields.map Prod.fst := by
  unfold objectReading at reads
  split at reads <;> cases reads
  · exact .inl rfl
  · exact .inr (by decide)
  all_goals exact .inl rfl

/-- An event may give the payment intent as its identifier or as an object, whether or not it is read. -/
theorem told_referring (object : Around) {s : String} {members : List (String × Json)}
    (id : members.lookup "id" = some (.text s)) :
    GatewayEvent.told (referring top data object (.text s)) =
      GatewayEvent.told (referring top data object (.object members)) := by
  cases reads : objectReading (kindOf (.object (top.1 ++ top.2))) with
  | none => exact (told_holding top data reads _).trans (told_holding top data reads _).symm
  | some fields =>
    rcases objectReading_intent reads with read | unread
    · exact told_change (change_holding top data reads (.member read (.expand id) _ _))
    · have without (x : Json) : GatewayEvent.told (holding top data (.object (object.1 ++ object.2))) =
          GatewayEvent.told (referring top data object x) :=
        told_change (change_holding top data reads (.add unread _ _ x))
      exact (without _).symm.trans (without _)

end holding

/-- **What the gateway adds is not heard.** Any sequence of changes of an event, made or undone, leaves its
identifier, its type and what it tells, or the failure and its text: members under names that are not read may
be added at the top, in the data, in the object and in what is read of it, and a reference may be its identifier
or the object that has it. For every type of event the payment intent may stand as its identifier, whatever text
that is, or as any object with this identifier. -/
theorem told_of_changes :
    (∀ v v', Relation.EqvGen Change v v' → GatewayEvent.told v = GatewayEvent.told v') ∧
      ∀ (top data object : Around) (s : String) (members : List (String × Json)),
        members.lookup "id" = some (.text s) →
          GatewayEvent.told (referring top data object (.text s)) =
            GatewayEvent.told (referring top data object (.object members)) := by
  refine ⟨fun v v' changes => ?_, fun top data object s members id => told_referring top data object id⟩
  induction changes with
  | rel _ _ change => exact told_change change
  | refl _ => rfl
  | symm _ _ _ ih => exact ih.symm
  | trans _ _ _ _ _ ih ih' => exact ih.trans ih'

/-- What stands at the top of a refunded charge. -/
def chargeTop : Around := ([], [("id", .text "evt_1"), ("type", .text "charge.refunded")])

/-- A refund that refers to a payment intent. -/
def refundEntry (intent : Json) : Json :=
  .object [("amount", .int 500), ("id", .text "re_1"), ("payment_intent", intent)]

def refundEntries (entry : Json) (more : List (String × Json)) : Json := .object (("data", .array [entry]) :: more)

def charge (refunds : Json) : Json := .object [("payment_intent", .text "pi_1"), ("refunds", refunds)]

/-- The refund of a charge comes with an object in the place of its empty reference, then the list of refunds with
one more member, and the event still tells what it told. -/
theorem told_of_changes_charge :
    let intent := Json.object [("id", .text ""), ("status", .null)]
    let before := holding chargeTop ([], []) (charge (refundEntries (refundEntry (.text "")) []))
    let after := holding chargeTop ([], []) (charge (refundEntries (refundEntry intent) [("has_more", .bool true)]))
    Relation.EqvGen Change before after ∧ GatewayEvent.told after = .ok (⟨"evt_1"⟩, "charge.refunded",
      .ok (.refund ⟨some ⟨"pi_1"⟩, [⟨"re_1", 500, none, .pending⟩], true⟩)) := by
  intro intent before after
  have within {refunds refunds' : Json} (edit : Edit (.record refundsReading) refunds refunds') :
      Change (holding chargeTop ([], []) (charge refunds)) (holding chargeTop ([], []) (charge refunds')) :=
    change_holding _ _ (by rfl) (.member (by rfl) edit [("payment_intent", .text "pi_1")] [])
  have entry : Edit (.record RefundObject.reading) (refundEntry (.text "")) (refundEntry intent) :=
    .member (by rfl) (.expand (by rfl)) [("amount", .int 500), ("id", .text "re_1")] []
  have expanded : Edit (.record refundsReading) (refundEntries (refundEntry (.text "")) [])
      (refundEntries (refundEntry intent) []) := .member (by rfl) (.item entry [] []) [] []
  have enlarged : Edit (.record refundsReading) (refundEntries (refundEntry intent) [])
      (refundEntries (refundEntry intent) [("has_more", .bool true)]) :=
    .add (by decide) [("data", .array [refundEntry intent])] [] (.bool true)
  have changes : Relation.EqvGen Change before after :=
    .trans _ _ _ (.rel _ _ (within expanded)) (.rel _ _ (within enlarged))
  exact ⟨changes, (told_of_changes.1 _ _ changes).symm.trans (by rfl)⟩

end Gateway

end HostingBilling

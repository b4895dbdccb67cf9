import VelvetRuntime.Python.Socket
import VelvetRuntime.SensorLan.Client
import VelvetRuntime.SensorLan.Limits

open python python.num python.json python.except python.socket
open velvet.sensor_lan_ingress velvet.sensor_lan_client

namespace velvet.sensor_lan_transport

open Program SensorLanIngress

/-- What the binding hands to the publishing callable. -/
structure Publication where
  event_type : String
  payload : List (String × Json)
  node_id : String

/-- The server with its binding, and what was published through it. -/
structure SensorLanTcpServer where
  ingress : SensorLanIngress
  published : List Publication
  max_frame_bytes : Int
  bound : Bool
  accepted_count : Nat
  rejected_count : Nat

/-- How `accept` ends: no peer in time, a fault of the listener, or a connection with what arrives on it. -/
inductive Accept where
  | timed_out
  | failed (message : String)
  | connection (arrivals : List Arrival)

def transport_error (message : String) : Error := ⟨.SensorLanTransportError, message⟩

def connection_ended : Error := transport_error "sensor LAN TCP connection ended mid-frame"

def receive_frame (max_frame_bytes : Int) (arrivals : List Arrival) : Except Error ByteArray := do
  let (header, arrivals) ← receive_exact connection_ended 4 arrivals
  let frame_size := unpack header
  if frame_size < 1 then .error (transport_error "sensor LAN TCP frame must not be empty")
  else if max_frame_bytes < frame_size then .error (transport_error "sensor LAN TCP frame exceeds size limit")
  else do
    let (body, _) ← receive_exact connection_ended frame_size arrivals
    .ok body.toByteArray

/-- Whether `serve_once` catches an error of a message: the first of its clauses, or that for faults of the socket. -/
def is_rejection (error : Error) : Bool :=
  error.kind ∈ [.SensorLanAdmissionError, .SensorLanTransportError, .ValueError, .TypeError] || error.kind = .OSError

variable (platform : Platform) (limits : Limits)

namespace SensorLanTcpServer

/-- A call of the ingress. -/
def on_ingress {α : Type} (call : Program Error SensorLanIngress α) : Program Error SensorLanTcpServer α := do
  let self ← get
  set { self with ingress := call.after self.ingress }
  of_except (call.result self.ingress)

/-- `SensorLanRuntimeBinding.handle_message`. -/
def handle_message (raw_message : ByteArray) : Program Error SensorLanTcpServer Unit := do
  let admission ← on_ingress (SensorLanIngress.admit_within platform limits raw_message)
  if admission.event_type ∉ LAN_SENSOR_EVENT_TYPES then
    throw (admission_error "admitted event type escaped sensor allowlist")
  modify fun self => { self with
    published := self.published ++ [⟨admission.event_type, admission.payload, admission.node_id⟩] }

/-- Whether the message of a connection is handled; an error that is not caught goes on. -/
def handle_connection (arrivals : List Arrival) : Program Error SensorLanTcpServer Bool :=
  tryCatch (do
    let self ← get
    let raw_message ← of_except (receive_frame self.max_frame_bytes arrivals)
    handle_message platform limits raw_message
    return true) (fun error => if is_rejection error then return false else throw error)

def count (handled : Bool) (self : SensorLanTcpServer) : SensorLanTcpServer :=
  if handled then { self with accepted_count := self.accepted_count + 1 }
  else { self with rejected_count := self.rejected_count + 1 }

def serve_once (accept : Accept) : Program Error SensorLanTcpServer Bool := do
  let self ← get
  if !self.bound then throw ⟨.RuntimeError, "sensor LAN TCP server is not bound"⟩
  match accept with
  | .timed_out => return false
  | .failed message => throw (os_error message)
  | .connection arrivals => do
    let handled ← handle_connection platform limits arrivals
    modify (count handled)
    return true

/-- The loop of `serve_forever`, where the stop event is set after the given calls of `accept`. -/
def serve_all : List Accept → Program Error SensorLanTcpServer Unit
  | [] => return ()
  | accept :: rest => do
    let _ ← serve_once platform limits accept
    serve_all rest

/-- `serve_forever`. -/
def serve_forever (accepts : List Accept) : Program Error SensorLanTcpServer Unit :=
  tryFinally (serve_all platform limits accepts) (modify fun self => { self with bound := false })

end SensorLanTcpServer

/-- The frame that bytes begin with. -/
def frame_of (max_frame_bytes : Int) (received : List UInt8) : Option ByteArray :=
  if 1 ≤ unpack (received.take 4) ∧ unpack (received.take 4) ≤ max_frame_bytes ∧
      4 + unpack (received.take 4) ≤ received.length then
    some ((received.drop 4).take (unpack (received.take 4))).toByteArray
  else none

theorem is_rejection_of_ended {error : Error}
    (herror : error = connection_ended ∨ error.kind = .OSError) :
    is_rejection error = true := by
  rcases herror with rfl | hkind
  · rfl
  · simp [is_rejection, hkind]

/-- However the bytes arrive, the frame that they begin with is received, and anything else is a rejection. -/
theorem receive_frame_spec (max_frame_bytes : Int) (arrivals : List Arrival) :
    match frame_of max_frame_bytes (delivered arrivals) with
    | some raw_message => receive_frame max_frame_bytes arrivals = .ok raw_message
    | none => ∃ error, receive_frame max_frame_bytes arrivals = .error error ∧ is_rejection error = true := by
  have hheader := receive_exact_spec connection_ended 4 arrivals
  unfold receive_frame frame_of
  by_cases hshort : (delivered arrivals).length < 4
  · obtain ⟨error, herror, hkind⟩ := hheader.2 hshort
    rw [if_neg (by omega)]
    exact ⟨error, by rw [herror]; rfl, is_rejection_of_ended hkind⟩
  obtain ⟨left, hreceived, hleft⟩ := hheader.1 (not_lt.mp hshort)
  have hbody := receive_exact_spec connection_ended
    (unpack ((delivered arrivals).take 4)) left
  simp only [hreceived, ok_bind]
  generalize unpack ((delivered arrivals).take 4) = frame_size at hbody
  by_cases hempty : frame_size < 1
  · rw [if_neg (by omega), if_pos hempty]
    exact ⟨_, rfl, rfl⟩
  by_cases hlarge : max_frame_bytes < frame_size
  · rw [if_neg (by omega), if_neg hempty, if_pos hlarge]
    exact ⟨_, rfl, rfl⟩
  rw [if_neg hempty, if_neg hlarge]
  rw [hleft, List.length_drop] at hbody
  by_cases hwhole : 4 + frame_size ≤ (delivered arrivals).length
  · obtain ⟨last, hlast, -⟩ := hbody.1 (by omega)
    rw [if_pos (by omega), hlast]
    rfl
  · obtain ⟨error, herror, hkind⟩ := hbody.2 (by omega)
    rw [if_neg (by omega), herror]
    exact ⟨error, rfl, is_rejection_of_ended hkind⟩

theorem frame_of_append {max_frame_bytes : Int} {head body : List UInt8} (hhead : head.length = 4)
    (hsize : unpack head = body.length) (hbody : body ≠ []) (hlimit : body.length ≤ max_frame_bytes) :
    frame_of max_frame_bytes (head ++ body) = some body.toByteArray := by
  have hpositive := List.length_pos_of_ne_nil hbody
  have htake : (head ++ body).take 4 = head := List.take_left' hhead
  have hdrop : (head ++ body).drop 4 = body := List.drop_left' hhead
  unfold frame_of
  rw [htake, hdrop, hsize, List.take_length, List.length_append, hhead]
  exact if_pos ⟨hpositive, hlimit, le_rfl⟩

section serving

variable {platform limits} {self : SensorLanTcpServer} {raw_message : ByteArray} {arrivals : List Arrival}

namespace SensorLanTcpServer

/-- The server after it has published an admission. -/
def publish (self : SensorLanTcpServer) (admission : SensorLanAdmission) : SensorLanTcpServer :=
  { self with
    ingress := self.ingress.record admission
    published := self.published ++ [⟨admission.event_type, admission.payload, admission.node_id⟩] }

variable {raises : Error → SensorLanTcpServer → Prop}

theorem wp_admit {returns : SensorLanAdmission → SensorLanTcpServer → Prop} :
    wp (on_ingress (admit_within platform limits raw_message)) returns raises self ↔
      match self.ingress.checked_within platform limits raw_message with
      | .ok admission => returns admission { self with ingress := self.ingress.record admission }
      | .error error => raises error self := by
  unfold on_ingress
  simp only [wp_bind, wp_get, wp_set, wp_of_except]
  unfold result after
  rw [run_admit_within]
  cases self.ingress.checked_within platform limits raw_message with
  | ok admission => rfl
  | error error => rfl

/-- What the ingress admits is never outside the list that the binding checks again. -/
theorem wp_handle_message {returns : Unit → SensorLanTcpServer → Prop} :
    wp (handle_message platform limits raw_message) returns raises self ↔
      match self.ingress.checked_within platform limits raw_message with
      | .ok admission => returns () (self.publish admission)
      | .error error => raises error self := by
  unfold handle_message
  rw [wp_bind, wp_admit]
  cases hchecked : self.ingress.checked_within platform limits raw_message with
  | error error => rfl
  | ok admission =>
    obtain ⟨message, _, hchecked⟩ := bind_eq_ok.mp hchecked
    obtain ⟨found, hverify, hchecked⟩ := bind_eq_ok.mp hchecked
    obtain ⟨-, hsame⟩ := check_bind_eq_ok.mp hchecked
    cases hsame
    obtain ⟨_, _, _, hverified⟩ := verify_message_eq_ok.mp (verify_message_of_within hverify)
    simp only [hverified.event_type_known, not_true_eq_false, if_false, wp_modify]
    rfl

theorem wp_handle_connection {returns : Bool → SensorLanTcpServer → Prop} :
    wp (handle_connection platform limits arrivals) returns raises self ↔
      match frame_of self.max_frame_bytes (delivered arrivals) with
      | none => returns false self
      | some raw_message =>
        match self.ingress.checked_within platform limits raw_message with
        | .ok admission => returns true (self.publish admission)
        | .error error => if is_rejection error then returns false self else raises error self := by
  have hreceived := receive_frame_spec self.max_frame_bytes arrivals
  unfold handle_connection
  rw [wp_tryCatch, wp_bind, wp_get, wp_bind, wp_of_except]
  cases hframe : frame_of self.max_frame_bytes (delivered arrivals) with
  | none =>
    rw [hframe] at hreceived
    obtain ⟨error, herror, hrejection⟩ := hreceived
    simp only [herror, hrejection, if_true, wp_pure]
  | some raw_message =>
    rw [hframe] at hreceived
    simp only [hreceived, wp_bind, wp_handle_message, wp_pure]
    cases self.ingress.checked_within platform limits raw_message with
    | ok admission => rfl
    | error error =>
      dsimp only
      split
      · rfl
      · rfl

end SensorLanTcpServer

/-- The server that a message leaves: it is counted once, as accepted or as rejected. -/
def CountedOnce (before after : SensorLanTcpServer) : Prop :=
  after.accepted_count = before.accepted_count + 1 ∧ after.rejected_count = before.rejected_count ∨
    after.accepted_count = before.accepted_count ∧ after.rejected_count = before.rejected_count + 1

/-- Whether the frame that a connection delivers keeps within what the interpreter takes. -/
def Harmless (platform : Platform) (limits : Limits) (server : SensorLanTcpServer) (arrivals : List Arrival) : Prop :=
  ∀ raw_message, frame_of server.max_frame_bytes (delivered arrivals) = some raw_message →
    ∀ text, server.ingress.message_text raw_message = .ok text → WithinLimits platform limits server.ingress text

/-- What a frame holds is harmless exactly when checking it raises nothing but rejections. -/
theorem raises_only_rejections_iff : RaisesOnly (is_rejection · = true) (self.ingress.checked_within platform limits raw_message) ↔
    ∀ text, self.ingress.message_text raw_message = .ok text → WithinLimits platform limits self.ingress text :=
  raises_only_checked_within_iff (fun _ => rfl) (fun _ => rfl) (by decide) (by decide)

variable {returns : Bool → SensorLanTcpServer → Prop}

theorem wp_serve_connection (hbound : self.bound = true) {raises : Error → SensorLanTcpServer → Prop} :
    wp (SensorLanTcpServer.serve_once platform limits (.connection arrivals)) returns raises self ↔
      wp (SensorLanTcpServer.handle_connection platform limits arrivals)
        (fun handled after => returns true (after.count handled)) raises self := by
  unfold SensorLanTcpServer.serve_once
  simp only [wp_bind, wp_get, hbound, Bool.not_true, Bool.false_eq_true, if_false]
  rfl

/-- Whatever holds of the server that has published an admission, and of the one that has rejected a message, holds after
a connection exactly when that is harmless. -/
theorem wp_serve_connection_of (hbound : self.bound = true)
    (hpublished : ∀ admission, returns true ((self.publish admission).count true))
    (hrejected : returns true (self.count false)) :
    wp (SensorLanTcpServer.serve_once platform limits (.connection arrivals)) returns (fun _ _ => False) self ↔
      Harmless platform limits self arrivals := by
  rw [wp_serve_connection hbound, SensorLanTcpServer.wp_handle_connection]
  unfold Harmless
  cases hframe : frame_of self.max_frame_bytes (delivered arrivals) with
  | none => exact iff_of_true hrejected fun _ hnone => nomatch hnone
  | some raw_message =>
    simp only [Option.some.injEq, forall_eq']
    rw [← raises_only_rejections_iff]
    cases self.ingress.checked_within platform limits raw_message with
    | ok admission => exact iff_of_true (hpublished admission) (raises_only_ok admission)
    | error error =>
      rw [raises_only_error]
      dsimp only
      by_cases hrejection : is_rejection error = true
      · rw [if_pos hrejection]
        exact iff_of_true hrejected hrejection
      · rw [if_neg hrejection]
        exact iff_of_false not_false hrejection

/-- What a call leaves as it was: everything that decides which frames are harmless. -/
structure KeepsSettings (before after : SensorLanTcpServer) : Prop where
  bound : after.bound = before.bound
  max_frame_bytes : after.max_frame_bytes = before.max_frame_bytes
  max_message_bytes : after.ingress.max_message_bytes = before.ingress.max_message_bytes
  node_keys : after.ingress.node_keys = before.ingress.node_keys

variable {before after : SensorLanTcpServer}

theorem KeepsSettings.harmless_iff (hkeeps : KeepsSettings before after) :
    Harmless platform limits after arrivals ↔ Harmless platform limits before arrivals := by
  have htext (raw_message : ByteArray) : after.ingress.message_text raw_message = before.ingress.message_text raw_message := by
    unfold message_text
    rw [hkeeps.max_message_bytes]
  have hclaimed (message : List (String × Json)) :
      after.ingress.claimed_fields message = before.ingress.claimed_fields message := by
    unfold claimed_fields
    rw [hkeeps.node_keys]
  have hwithin (text : String) : WithinLimits platform limits after.ingress text ↔
      WithinLimits platform limits before.ingress text := by
    constructor
    · rintro ⟨hshallow, hsized, hsignable⟩
      simp only [hclaimed] at hsized hsignable
      exact ⟨hshallow, hsized, hsignable⟩
    · rintro ⟨hshallow, hsized, hsignable⟩
      simp only [← hclaimed] at hsized hsignable
      exact ⟨hshallow, hsized, hsignable⟩
  unfold Harmless
  simp only [hkeeps.max_frame_bytes, htext, hwithin]

namespace SensorLanTcpServer

/-- The messages that the server has counted. -/
def counted (self : SensorLanTcpServer) : Nat := self.accepted_count + self.rejected_count

end SensorLanTcpServer

namespace Accept

/-- The messages that a call of `accept` leads to. -/
def messages : Accept → Nat
  | .connection _ => 1
  | .timed_out | .failed _ => 0

/-- Whether the listener goes on afterwards. -/
def Harmless (platform : Platform) (limits : Limits) (server : SensorLanTcpServer) : Accept → Prop
  | .connection arrivals => sensor_lan_transport.Harmless platform limits server arrivals
  | .timed_out => True
  | .failed _ => False

end Accept

theorem KeepsSettings.accept_harmless_iff (hkeeps : KeepsSettings before after)
    (accept : Accept) : accept.Harmless platform limits after ↔ accept.Harmless platform limits before := by
  cases accept with
  | connection arrivals => exact hkeeps.harmless_iff
  | timed_out | failed _ => exact Iff.rfl

/-- A call that raises nothing returns. -/
theorem wp_returns_iff {ε σ α : Type} {program : Program ε σ α} {returns : α → σ → Prop} {state : σ} :
    wp program returns (fun _ _ => False) state ↔
      ∃ value after, program.run state = .ok value after ∧ returns value after := by
  unfold wp
  cases program.run state with
  | ok value after => simp
  | error error after => simp

theorem wp_serve_once_iff (hbound : self.bound = true) (accept : Accept)
    (hreturns : ∀ served after, KeepsSettings self after → after.counted = self.counted + accept.messages →
      returns served after) :
    wp (SensorLanTcpServer.serve_once platform limits accept) returns (fun _ _ => False) self ↔
      accept.Harmless platform limits self := by
  have hkeeps : KeepsSettings self self := ⟨rfl, rfl, rfl, rfl⟩
  cases accept with
  | timed_out =>
    unfold SensorLanTcpServer.serve_once
    simp only [wp_bind, wp_get, hbound, Bool.not_true, Bool.false_eq_true, if_false]
    exact iff_of_true (hreturns false self hkeeps rfl) trivial
  | failed message =>
    unfold SensorLanTcpServer.serve_once
    simp only [wp_bind, wp_get, hbound, Bool.not_true, Bool.false_eq_true, if_false]
    exact iff_of_false not_false not_false
  | connection arrivals =>
    refine wp_serve_connection_of hbound (fun admission => hreturns _ _ ⟨rfl, rfl, rfl, rfl⟩ ?_)
      (hreturns _ _ ⟨rfl, rfl, rfl, rfl⟩ rfl)
    exact Nat.add_right_comm _ _ _

/-- The listener goes on through a run exactly when every step of it is harmless, and has counted its messages then. -/
theorem wp_serve_all_iff (accepts : List Accept) (hbound : self.bound = true) :
    wp (SensorLanTcpServer.serve_all platform limits accepts)
      (fun _ after => after.counted = self.counted + (accepts.map Accept.messages).sum) (fun _ _ => False) self ↔
      ∀ accept ∈ accepts, accept.Harmless platform limits self := by
  induction accepts generalizing self with
  | nil => exact iff_of_true rfl (List.forall_mem_nil _)
  | cons accept rest ih =>
    have hstep (returns : Bool → SensorLanTcpServer → Prop) (hreturns : ∀ served after, KeepsSettings self after →
        after.counted = self.counted + accept.messages → returns served after) :
        wp (SensorLanTcpServer.serve_once platform limits accept) returns (fun _ _ => False) self ↔
          accept.Harmless platform limits self := wp_serve_once_iff hbound accept hreturns
    have hgoes {mid : SensorLanTcpServer} (hkeeps : KeepsSettings self mid)
        (hcounted : mid.counted = self.counted + accept.messages) :
        wp (SensorLanTcpServer.serve_all platform limits rest)
          (fun _ after => after.counted = self.counted + ((accept :: rest).map Accept.messages).sum) (fun _ _ => False) mid ↔
          ∀ accept ∈ rest, accept.Harmless platform limits self := by
      rw [List.map_cons, List.sum_cons, ← Nat.add_assoc, ← hcounted, ih (hkeeps.bound.trans hbound)]
      exact forall₂_congr fun accept _ => hkeeps.accept_harmless_iff accept
    rw [SensorLanTcpServer.serve_all, wp_bind, List.forall_mem_cons]
    constructor
    · intro hserved
      have hharmless := (hstep (fun _ _ => True) fun _ _ _ _ => trivial).mp
        (wp_mono hserved (fun _ _ _ => trivial) fun _ _ hfalse => hfalse)
      have hkept := (hstep _ fun _ _ hkeeps hcounted => And.intro hkeeps hcounted).mpr hharmless
      obtain ⟨_, mid, -, hrest, hkeeps, hcounted⟩ := wp_returns_iff.mp
        (wp_mono (wp_and hserved hkept) (fun _ _ hboth => hboth) fun _ _ hfalse => hfalse.1)
      exact ⟨hharmless, (hgoes hkeeps hcounted).mp hrest⟩
    · rintro ⟨hharmless, hrest⟩
      exact (hstep _ fun _ _ hkeeps hcounted => (hgoes hkeeps hcounted).mpr hrest).mpr hharmless

/-- In every state of a listening server, a message is counted once as accepted or as rejected and answered with `True`
exactly when its frame keeps within what the interpreter takes; and `serve_forever` goes on through all its connections,
with every message counted, exactly when all of them do. -/
theorem listener_survives_iff (hbound : self.bound = true) :
    (∀ arrivals, wp (SensorLanTcpServer.serve_once platform limits (.connection arrivals))
        (fun served after => served = true ∧ CountedOnce self after) (fun _ _ => False) self ↔
      Harmless platform limits self arrivals) ∧
    ∀ accepts, wp (SensorLanTcpServer.serve_forever platform limits accepts)
        (fun _ after => after.counted = self.counted + (accepts.map Accept.messages).sum) (fun _ _ => False) self ↔
      ∀ accept ∈ accepts, accept.Harmless platform limits self := by
  constructor
  · intro arrivals
    exact wp_serve_connection_of hbound (fun admission => ⟨rfl, .inl ⟨rfl, rfl⟩⟩) ⟨rfl, .inr ⟨rfl, rfl⟩⟩
  · intro accepts
    rw [← wp_serve_all_iff accepts hbound, SensorLanTcpServer.serve_forever, wp_tryFinally]
    rfl

/-- A frame of brackets alone, one more than the scanner may nest. -/
def bracket_frame (limits : Limits) (head : List UInt8) : List UInt8 := head ++ List.replicate (limits.scan_depth + 1) 91

theorem bracket_bytes (count : Nat) :
    (List.replicate count (91 : UInt8)).toByteArray = (String.ofList (List.replicate count '[')).toUTF8 := by
  rw [bytes.toUTF8_of_ascii fun c hc => by rw [List.eq_of_mem_replicate hc]; decide, List.map_replicate]
  rfl

theorem message_text_of_brackets {ingress : SensorLanIngress} {count : Nat}
    (hmessage : (count + 1 : Nat) ≤ ingress.max_message_bytes) :
    ingress.message_text (List.replicate (count + 1) (91 : UInt8)).toByteArray =
      .ok (String.ofList (List.replicate (count + 1) '[')) := by
  have hsize : (List.replicate (count + 1) (91 : UInt8)).toByteArray.size = count + 1 := by
    rw [List.size_toByteArray, List.length_replicate]
  unfold message_text
  rw [if_neg (by simp [ByteArray.isEmpty, hsize]), if_neg (by rw [hsize]; exact not_lt.mpr hmessage), bracket_bytes,
    bytes.fromUTF8_toUTF8]

/-- A peer without a key stops the listener wherever the limits of a message allow more brackets than the scanner may
nest: the `RecursionError` of `json.loads` is passed on, and the message is not counted at all. -/
theorem wp_serve_brackets (hbound : self.bound = true) {head : List UInt8} (hhead : header (limits.scan_depth + 1) = .ok head)
    (hframe : (limits.scan_depth + 1 : Nat) ≤ self.max_frame_bytes)
    (hmessage : (limits.scan_depth + 1 : Nat) ≤ self.ingress.max_message_bytes) :
    wp (SensorLanTcpServer.serve_once platform limits (.connection [.bytes (bracket_frame limits head)]))
      (fun _ _ => False) (fun error after => error = recursion_error ∧ after = self) self := by
  obtain ⟨hlength, hsize⟩ := unpack_pack hhead
  have hbody : List.replicate (limits.scan_depth + 1) (91 : UInt8) ≠ [] := by
    rw [List.replicate_succ]
    exact List.cons_ne_nil _ _
  have hdelivered : delivered [.bytes (bracket_frame limits head)] = bracket_frame limits head := by
    have hframe_ne : bracket_frame limits head ≠ [] := List.append_ne_nil_of_right_ne_nil head hbody
    rw [delivered_bytes hframe_ne]
    exact List.append_nil _
  have hreceived : frame_of self.max_frame_bytes (delivered [.bytes (bracket_frame limits head)]) =
      some (List.replicate (limits.scan_depth + 1) (91 : UInt8)).toByteArray := by
    rw [hdelivered]
    exact frame_of_append hlength (by rw [List.length_replicate, hsize]) hbody (by rwa [List.length_replicate])
  have hchecked : self.ingress.checked_within platform limits
      (List.replicate (limits.scan_depth + 1) (91 : UInt8)).toByteArray = .error recursion_error := by
    have hloads := loads_within_of_brackets limits (reader platform) []
    rw [List.append_nil] at hloads
    unfold checked_within decode_within
    rw [message_text_of_brackets hmessage, ok_bind, hloads]
    rfl
  rw [wp_serve_connection hbound, SensorLanTcpServer.wp_handle_connection, hreceived]
  dsimp only
  rw [hchecked]
  exact ⟨rfl, rfl⟩

end serving

/-- The limits of an interpreter that allows a thousand frames, where a few are in use. -/
def interpreter : Limits where
  scan_depth := 990
  encode_depth := 988
  int_digits := some 4300

/-- A listener with its limits as they are by default. -/
@[irreducible] def listening : SensorLanTcpServer where
  ingress := { door_ingress with max_message_bytes := 262144 }
  published := []
  max_frame_bytes := 262144
  bound := true
  accepted_count := 0
  rejected_count := 0

theorem bound_listening : listening.bound = true := by
  unfold listening
  rfl

/-- A connection that ends in its header is rejected, and the listener goes on. -/
theorem listening_survives_short_header :
    wp (SensorLanTcpServer.serve_forever door_platform interpreter [.timed_out, .connection [.bytes [0, 0, 1]]])
      (fun _ after => after.counted = listening.counted + 1) (fun _ _ => False) listening := by
  refine ((listener_survives_iff bound_listening).2 _).mpr ?_
  have hnone : frame_of listening.max_frame_bytes (delivered [.bytes [0, 0, 1]]) = none :=
    if_neg fun hwhole => absurd hwhole.2.2 (by decide)
  rw [List.forall_mem_cons, List.forall_mem_singleton]
  exact ⟨trivial, fun raw_message hframe => nomatch hnone.symm.trans hframe⟩

/-- 991 brackets behind their length stop the listener. -/
theorem brackets_stop_listener :
    wp (SensorLanTcpServer.serve_once door_platform interpreter
        (.connection [.bytes ([0, 0, 3, 0xDF] ++ List.replicate 991 91)]))
      (fun _ _ => False) (fun error after => error = recursion_error ∧ after = listening) listening ∧
    ¬ wp (SensorLanTcpServer.serve_once door_platform interpreter
        (.connection [.bytes ([0, 0, 3, 0xDF] ++ List.replicate 991 91)]))
      (fun served after => served = true ∧ CountedOnce listening after) (fun _ _ => False) listening := by
  have hhead : header (interpreter.scan_depth + 1) = .ok [0, 0, 3, 0xDF] := by
    rw [header, if_neg (by decide)]
    rfl
  have hframe : ((interpreter.scan_depth + 1 : Nat) : Int) ≤ listening.max_frame_bytes := by
    unfold listening
    decide
  have hmessage : ((interpreter.scan_depth + 1 : Nat) : Int) ≤ listening.ingress.max_message_bytes := by
    unfold listening
    decide
  have hraises := @wp_serve_brackets door_platform _ _ bound_listening _ hhead hframe hmessage
  refine ⟨hraises, fun hserved => ?_⟩
  obtain ⟨_, _, _, hfalse, _⟩ := wp_returns_iff.mp
    (wp_mono (wp_and hraises hserved) (fun _ _ hboth => hboth) fun _ _ hfalse => hfalse.2)
  exact hfalse

end velvet.sensor_lan_transport

import VelvetRuntime.UnixTransport.Codec

open python python.str python.num python.json python.socket python.except

namespace velvet.distributed_work_unix_transport

section conditions

variable (interpreter : Interpreter)

/-- The response of a dispatch fits a frame. -/
def Dispatch.Fits (room : Nat) (request_id : String) : Dispatch → Prop
  | .returned result =>
    if is_mapping result then ResultFits interpreter room request_id result
    else ErrorFits room request_id "TypeError" "RPC dispatch must return a mapping"
  | .raised error_type error => ErrorFits room request_id error_type error
  | .interrupted _ _ => False

variable [StrLower]

namespace FrameServer

/-- The frame of a client is a request with this id and this content. -/
def Identified (self : FrameServer) (client : Client) (request_id content : String) : Prop :=
  ∃ request, receive_frame interpreter self.max_frame_bytes client.arrivals = .ok request ∧
    identify interpreter request = .ok (request_id, content)

/-- What it takes to answer a client: sending does not fail, the error for a frame that is no request, or for an id that
was used with other content, fits a frame, and so does what a new request is dispatched to. -/
structure Answerable (server : FrameServer) (client : Client) : Prop where
  sending : ∀ error, client.sent ≠ .raised error
  unreadable : ∀ error, receive_frame interpreter server.max_frame_bytes client.arrivals = .error error →
    ErrorFits (frame_room server.max_frame_bytes) "unknown" error.kind.name error.message
  invalid : ∀ request error, receive_frame interpreter server.max_frame_bytes client.arrivals = .ok request →
    identify interpreter request = .error error →
      ErrorFits (frame_room server.max_frame_bytes) (safe_request_id request) error.kind.name error.message
  reused : ∀ request_id content kept, server.Identified interpreter client request_id content →
    server.cache.get? request_id = some kept → kept.1 ≠ interpreter.sha256 content →
      ErrorFits (frame_room server.max_frame_bytes) request_id "RequestIdReuseError"
        "request_id was reused with different content"
  fresh : ∀ request_id content, server.Identified interpreter client request_id content →
    server.cache.get? request_id = none →
      client.dispatch.Fits interpreter (frame_room server.max_frame_bytes) request_id

/-- A response that the server kept and sends again fits a frame. -/
def Repeatable (self : FrameServer) (client : Client) : Prop :=
  ∀ request_id content kept, self.Identified interpreter client request_id content →
    self.cache.get? request_id = some kept → kept.1 = interpreter.sha256 content →
      Sendable interpreter self.max_frame_bytes kept.2

/-- Every client of a run that is allowed can be answered in the state it is served in. -/
def AllAnswerable (self : FrameServer) : List Client → Prop
  | [] => True
  | client :: rest => (self.peer_allowed client.credentials = true → self.Answerable interpreter client) ∧
      (self.serve_once interpreter client).2.AllAnswerable rest

end FrameServer

end conditions

variable {interpreter : Interpreter}

section errors

/-- The exception is one that `except Exception` catches. -/
def Caught (error : Error) : Prop := error.is_exception = true

theorem caught_value_error (message : String) : Caught (value_error message) := rfl

theorem raises_only_receive_exact (size : Nat) (arrivals : List Arrival) :
    RaisesOnly Caught (receive_exact connection_closed size arrivals) := by
  have hos : ∀ message, Caught (os_error message) := fun _ => rfl
  have hclosed : Caught connection_closed := rfl
  induction arrivals generalizing size with
  | nil =>
    cases size with
    | zero => simp [receive_exact]
    | succ size => simp [receive_exact, hos]
  | cons arrival rest ih =>
    cases size with
    | zero => simp [receive_exact]
    | succ size =>
      cases arrival with
      | fault message => simp [receive_exact, hos]
      | bytes chunk => simp [receive_exact, hclosed, ih]

theorem caught_fault_error (fault : Fault) : Caught (fault_error interpreter fault) := by
  cases fault <;> rfl

theorem caught_canonical_error (fault : Fault) : Caught (canonical_error interpreter fault) := by
  cases fault <;> rfl

/-- Whatever a client sends, receiving it raises nothing but what is caught. -/
theorem raises_only_receive_frame (limit : Nat) (arrivals : List Arrival) :
    RaisesOnly Caught (receive_frame interpreter limit arrivals) := by
  have htransport : ∀ message, Caught (transport_error message) := fun _ => rfl
  unfold receive_frame
  simp only [raises_only_bind, raises_only_receive_exact, true_and, raises_only_ite, raises_only_error, htransport,
    implies_true]
  intro header _ _ payload _
  unfold decode_frame
  split
  · exact raises_only_error.mpr (htransport _)
  split
  · exact raises_only_error.mpr (htransport _)
  · exact raises_only_error.mpr (caught_fault_error _)
  · exact raises_only_ok _
  · exact raises_only_error.mpr (htransport _)

theorem raises_only_required_text (name : String) (value : Option Json) :
    RaisesOnly Caught (required_text name value) := by
  unfold required_text
  split
  · simp [caught_value_error]
  · simp [caught_value_error]

variable (request : Dict String Json)

/-- Whatever a request says, identifying it raises nothing but what is caught. -/
theorem raises_only_identify [StrLower] :
    RaisesOnly Caught (identify interpreter request) := by
  have hflags : RaisesOnly Caught (validate_envelope_flags request) := by
    unfold validate_envelope_flags
    split
    · exact raises_only_ok _
    · exact raises_only_error.mpr (caught_value_error _)
  have hid : ∀ value, RaisesOnly Caught (request_id value) := by
    intro value
    unfold request_id
    simp [raises_only_required_text, caught_value_error]
  have hoperation : ∀ value, RaisesOnly Caught (required_operation (builtins interpreter) value) := by
    intro value
    unfold required_operation
    simp [raises_only_required_text, caught_value_error]
  have hpayload : Caught ⟨.TypeError, "Unix RPC request payload must be a mapping"⟩ := rfl
  have hvalidate : RaisesOnly Caught (validate_request (builtins interpreter) request) := by
    unfold validate_request
    simp only [raises_only_bind, hflags, hid, hoperation, true_and, raises_only_ite, raises_only_error,
      caught_value_error, implies_true]
    intro _ _ _ identifier _ _ _
    split
    · exact raises_only_ok _
    · exact raises_only_error.mpr hpayload
  have hcontent : RaisesOnly Caught (canonical_request interpreter request) := by
    unfold canonical_request
    split
    · exact raises_only_error.mpr (caught_canonical_error _)
    · exact raises_only_ok _
  unfold identify
  simp [hvalidate, hcontent]

theorem length_request_id {value : Option Json} {text : String} (hid : request_id value = .ok text) :
    text.length ≤ 128 := by
  obtain ⟨found, -, hfound⟩ := bind_eq_ok.mp hid
  obtain ⟨hprintable, hsame⟩ := guard_eq_ok.mp hfound
  cases hsame
  exact Nat.not_lt.mp fun hlong => hprintable (.inl hlong)

theorem length_safe_request_id : (safe_request_id request).length ≤ 128 := by
  unfold safe_request_id
  split
  · rename_i hid
    exact length_request_id hid
  · decide

theorem length_of_identify [StrLower] {request : Dict String Json} {request_id content : String}
    (hidentify : identify interpreter request = .ok (request_id, content)) : request_id.length ≤ 128 := by
  obtain ⟨found, hvalid, hidentify⟩ := bind_eq_ok.mp hidentify
  obtain ⟨_, -, hpair⟩ := bind_eq_ok.mp hidentify
  cases hpair
  obtain ⟨-, hvalid⟩ := check_bind_eq_ok.mp hvalid
  obtain ⟨-, hvalid⟩ := guard_eq_ok.mp hvalid
  obtain ⟨identifier, hid, hvalid⟩ := bind_eq_ok.mp hvalid
  obtain ⟨_, -, hvalid⟩ := bind_eq_ok.mp hvalid
  split at hvalid
  · cases hvalid
    exact length_request_id hid
  · cases hvalid

end errors

variable [StrLower]

namespace FrameServer

variable {self after : FrameServer} {client : Client} {response : WireMessage} {request_id content : String}
variable {error : Error}

omit [StrLower] in
theorem failure_message_of_caught (hcaught : Caught error) :
    failure_message request_id error = .ok (error_message request_id error.kind.name error.message) := if_pos hcaught

theorem respond_of_unreadable
    (hreceive : receive_frame interpreter self.max_frame_bytes client.arrivals = .error error) :
    self.respond interpreter client = (.ok (error_message "unknown" error.kind.name error.message), self) := by
  unfold respond
  rw [hreceive]
  dsimp only
  rw [failure_message_of_caught (raises_only_receive_frame _ _ error hreceive)]

theorem respond_of_invalid {request : Dict String Json}
    (hreceive : receive_frame interpreter self.max_frame_bytes client.arrivals = .ok request)
    (hidentify : identify interpreter request = .error error) : self.respond interpreter client =
      (.ok (error_message (safe_request_id request) error.kind.name error.message), self) := by
  unfold respond handle_request
  rw [hreceive]
  dsimp only
  rw [hidentify]
  dsimp only
  rw [failure_message_of_caught (raises_only_identify request error hidentify)]

omit [StrLower] in
theorem uncaught_of_dispatch_response {dispatch : Dispatch}
    (hresponse : dispatch_response request_id dispatch = .error error) : error.is_exception = false := by
  cases dispatch with
  | returned result =>
    unfold dispatch_response at hresponse
    dsimp only at hresponse
    split at hresponse <;> cases hresponse
  | raised error_type text => cases hresponse
  | interrupted raised uncaught =>
    cases hresponse
    exact uncaught

/-- A request whose id was used is answered from the cache, or with an error. -/
theorem respond_of_kept (hidentified : self.Identified interpreter client request_id content)
    {kept : String × WireMessage} (hkept : self.cache.get? request_id = some kept) :
    self.respond interpreter client =
      if kept.1 = interpreter.sha256 content then
        (.ok kept.2, { self with cache := self.cache.move_to_end request_id })
      else (.ok (reuse_message request_id), self) := by
  obtain ⟨request, hreceive, hidentify⟩ := hidentified
  unfold respond handle_request
  rw [hreceive]
  dsimp only
  rw [hidentify]
  dsimp only
  rw [hkept]
  by_cases hsame : kept.1 = interpreter.sha256 content
  · simp [hsame]
  · simp [hsame]

/-- A new request is dispatched, and its response is kept. -/
theorem respond_of_fresh (hidentified : self.Identified interpreter client request_id content)
    (hnone : self.cache.get? request_id = none) :
    self.respond interpreter client =
      match dispatch_response request_id client.dispatch with
      | .ok response => (.ok response, self.keep request_id (interpreter.sha256 content) response)
      | .error error => (.error error, self) := by
  obtain ⟨request, hreceive, hidentify⟩ := hidentified
  unfold respond handle_request
  rw [hreceive]
  dsimp only
  rw [hidentify]
  dsimp only
  rw [hnone]
  dsimp only
  cases hresponse : dispatch_response request_id client.dispatch with
  | ok response => rfl
  | error error =>
    change (failure_message _ error, self) = (.error error, self)
    unfold failure_message
    rw [if_neg (by simp [uncaught_of_dispatch_response hresponse])]

/-- A client whose response is known is answered when the response can be sent. -/
theorem serve_once_of_response (hallowed : self.peer_allowed client.credentials = true)
    (hrespond : self.respond interpreter client = (.ok response, after)) :
    ((self.serve_once interpreter client).1 = .ok true ↔
      Sendable interpreter after.max_frame_bytes response ∧ ∀ error, client.sent ≠ .raised error) ∧
    (self.serve_once interpreter client).2 = after := by
  unfold serve_once Sendable
  rw [hallowed, hrespond]
  simp only [Bool.not_true, Bool.false_eq_true, if_false]
  cases send_frame interpreter after.max_frame_bytes response with
  | error error => simp
  | ok frame =>
    cases client.sent with
    | delivered => simp
    | lost => simp
    | raised error => simp

omit [StrLower] in
theorem sendable_dispatch_iff (hid : request_id.length ≤ 128) {limit : Nat} {dispatch : Dispatch} :
    dispatch.Fits interpreter (frame_room limit) request_id ↔
      ∃ response, dispatch_response request_id dispatch = .ok response ∧ Sendable interpreter limit response := by
  cases dispatch with
  | returned result =>
    unfold Dispatch.Fits dispatch_response
    by_cases hmapping : is_mapping result = true
    · simp [hmapping, sendable_success_iff]
    · simp [hmapping, sendable_error_iff hid]
  | raised error_type error => simp [Dispatch.Fits, dispatch_response, sendable_error_iff hid]
  | interrupted error uncaught => simp [Dispatch.Fits, dispatch_response]

/-- A client sends one request. -/
theorem Identified.unique {other_id other : String} (hidentified : self.Identified interpreter client request_id content)
    (hother : self.Identified interpreter client other_id other) : other_id = request_id ∧ other = content := by
  obtain ⟨request, hreceive, hidentify⟩ := hidentified
  obtain ⟨_, hagain, hidentify_again⟩ := hother
  cases hreceive.symm.trans hagain
  cases hidentify.symm.trans hidentify_again
  exact ⟨rfl, rfl⟩

theorem Identified.length_le (hidentified : self.Identified interpreter client request_id content) :
    request_id.length ≤ 128 := by
  obtain ⟨_, _, hidentify⟩ := hidentified
  exact length_of_identify hidentify

/-- A request with an id is neither unreadable nor invalid. -/
theorem answerable_of_identified (hidentified : self.Identified interpreter client request_id content)
    (hsent : ∀ error, client.sent ≠ .raised error)
    (hreused : ∀ kept, self.cache.get? request_id = some kept → kept.1 ≠ interpreter.sha256 content →
      ErrorFits (frame_room self.max_frame_bytes) request_id "RequestIdReuseError"
        "request_id was reused with different content") (hfresh : self.cache.get? request_id = none →
      client.dispatch.Fits interpreter (frame_room self.max_frame_bytes) request_id) :
    self.Answerable interpreter client where
  sending := hsent
  unreadable := fun _ herror => by
    obtain ⟨_, hreceive, _⟩ := hidentified
    cases hreceive.symm.trans herror
  invalid := fun _ _ hrequest herror => by
    obtain ⟨_, hreceive, hidentify⟩ := hidentified
    cases hreceive.symm.trans hrequest
    cases hidentify.symm.trans herror
  reused := fun _ _ kept hother hkept hdifferent => by
    obtain ⟨rfl, rfl⟩ := hidentified.unique hother
    exact hreused kept hkept hdifferent
  fresh := fun _ _ hother hnone => by
    obtain ⟨rfl, rfl⟩ := hidentified.unique hother
    exact hfresh hnone

theorem serve_once_identified_iff (hallowed : self.peer_allowed client.credentials = true)
    (hidentified : self.Identified interpreter client request_id content) :
    (self.serve_once interpreter client).1 = .ok true ↔
      self.Answerable interpreter client ∧ self.Repeatable interpreter client := by
  cases hcache : self.cache.get? request_id with
  | some kept =>
    have hrespond := respond_of_kept hidentified hcache
    by_cases hsame : kept.1 = interpreter.sha256 content
    · rw [if_pos hsame] at hrespond
      rw [(serve_once_of_response hallowed hrespond).1]
      constructor
      · rintro ⟨hsendable, hsent⟩
        refine ⟨answerable_of_identified hidentified hsent (fun other hother hdifferent => ?_)
          (fun hnone => nomatch hcache.symm.trans hnone), fun _ _ other hother hkept _ => ?_⟩
        · cases hcache.symm.trans hother
          exact absurd hsame hdifferent
        · obtain ⟨rfl, rfl⟩ := hidentified.unique hother
          cases hcache.symm.trans hkept
          exact hsendable
      · rintro ⟨hanswerable, hrepeatable⟩
        exact ⟨hrepeatable _ _ _ hidentified hcache hsame, hanswerable.sending⟩
    · rw [if_neg hsame] at hrespond
      rw [(serve_once_of_response hallowed hrespond).1, reuse_message, sendable_error_iff hidentified.length_le]
      constructor
      · rintro ⟨hfits, hsent⟩
        refine ⟨answerable_of_identified hidentified hsent (fun _ _ _ => hfits)
          (fun hnone => nomatch hcache.symm.trans hnone), fun _ _ other hother hkept hequal => ?_⟩
        obtain ⟨rfl, rfl⟩ := hidentified.unique hother
        cases hcache.symm.trans hkept
        exact absurd hequal hsame
      · rintro ⟨hanswerable, -⟩
        exact ⟨hanswerable.reused _ _ _ hidentified hcache hsame, hanswerable.sending⟩
  | none =>
    have hrepeatable : self.Repeatable interpreter client := by
      intro _ _ kept hother hkept _
      obtain ⟨rfl, rfl⟩ := hidentified.unique hother
      cases hcache.symm.trans hkept
    have hfits : client.dispatch.Fits interpreter (frame_room self.max_frame_bytes) request_id ↔ _ :=
      sendable_dispatch_iff hidentified.length_le
    have hrespond := respond_of_fresh hidentified hcache
    have hanswerable : self.Answerable interpreter client ↔
        client.dispatch.Fits interpreter (frame_room self.max_frame_bytes) request_id ∧
          ∀ error, client.sent ≠ .raised error :=
      ⟨fun hanswerable => ⟨hanswerable.fresh _ _ hidentified hcache, hanswerable.sending⟩,
        fun ⟨hfits, hsent⟩ => answerable_of_identified hidentified hsent
          (fun _ hkept => nomatch hcache.symm.trans hkept) (fun _ => hfits)⟩
    rw [and_iff_left hrepeatable, hanswerable, hfits]
    cases hresponse : dispatch_response request_id client.dispatch with
    | ok response =>
      rw [hresponse] at hrespond
      rw [(serve_once_of_response hallowed hrespond).1]
      simp [keep]
    | error error =>
      rw [hresponse] at hrespond
      unfold serve_once
      rw [hallowed, hrespond]
      simp

/-- A client that is allowed is answered exactly when it can be. -/
theorem serve_once_allowed_iff (hallowed : self.peer_allowed client.credentials = true) :
    (self.serve_once interpreter client).1 = .ok true ↔
      self.Answerable interpreter client ∧ self.Repeatable interpreter client := by
  cases hreceive : receive_frame interpreter self.max_frame_bytes client.arrivals with
  | error error =>
    have hnone : ∀ request_id content, ¬self.Identified interpreter client request_id content := by
      rintro request_id content ⟨request, hrequest, -⟩
      cases hreceive.symm.trans hrequest
    rw [(serve_once_of_response hallowed (respond_of_unreadable hreceive)).1, sendable_error_iff (by decide)]
    constructor
    · rintro ⟨hfits, hsent⟩
      refine ⟨{
        sending := hsent
        unreadable := fun other hother => ?_
        invalid := fun request _ hrequest => nomatch hreceive.symm.trans hrequest
        reused := fun request_id content _ hidentified => absurd hidentified (hnone request_id content)
        fresh := fun request_id content hidentified => absurd hidentified (hnone request_id content) },
        fun request_id content _ hidentified => absurd hidentified (hnone request_id content)⟩
      cases hreceive.symm.trans hother
      exact hfits
    · exact fun ⟨hanswerable, _⟩ => ⟨hanswerable.unreadable error hreceive, hanswerable.sending⟩
  | ok request =>
    cases hidentify : identify interpreter request with
    | ok identified => exact serve_once_identified_iff hallowed ⟨request, hreceive, hidentify⟩
    | error error =>
      have hnone : ∀ request_id content, ¬self.Identified interpreter client request_id content := by
        rintro request_id content ⟨other, hrequest, hidentified⟩
        cases hreceive.symm.trans hrequest
        cases hidentify.symm.trans hidentified
      rw [(serve_once_of_response hallowed (respond_of_invalid hreceive hidentify)).1,
        sendable_error_iff (length_safe_request_id request)]
      constructor
      · rintro ⟨hfits, hsent⟩
        refine ⟨{
          sending := hsent
          unreadable := fun _ herror => nomatch hreceive.symm.trans herror
          invalid := fun other raised hrequest hraised => ?_
          reused := fun request_id content _ hidentified => absurd hidentified (hnone request_id content)
          fresh := fun request_id content hidentified => absurd hidentified (hnone request_id content) },
          fun request_id content _ hidentified => absurd hidentified (hnone request_id content)⟩
        cases hreceive.symm.trans hrequest
        cases hidentify.symm.trans hraised
        exact hfits
      · exact fun ⟨hanswerable, _⟩ => ⟨hanswerable.invalid request error hreceive hidentify, hanswerable.sending⟩

/-- Every response that the server kept can be sent. -/
def Kept (interpreter : Interpreter) (self : FrameServer) : Prop :=
  ∀ request_id kept, self.cache.get? request_id = some kept → Sendable interpreter self.max_frame_bytes kept.2

omit [StrLower] in
theorem Kept.keep (hkept : self.Kept interpreter) (request_id fingerprint : String)
    (hresponse : Sendable interpreter self.max_frame_bytes response) :
    (self.keep request_id fingerprint response).Kept interpreter := by
  intro other kept hfound
  have hset := Dict.get?_of_keep_last _ hfound
  by_cases hsame : other = request_id
  · subst hsame
    rw [Dict.get?_set_self] at hset
    cases hset
    exact hresponse
  · rw [Dict.get?_set_of_ne _ _ hsame, Dict.get?_pop_of_ne _ hsame] at hset
    exact hkept other kept hset

omit [StrLower] in
theorem Kept.move_to_end (hkept : self.Kept interpreter) (request_id : String) :
    Kept interpreter { self with cache := self.cache.move_to_end request_id } := by
  intro other kept hfound
  change (self.cache.move_to_end request_id).get? other = some kept at hfound
  unfold Dict.move_to_end at hfound
  cases hcache : self.cache.get? request_id with
  | none =>
    rw [hcache] at hfound
    exact hkept other kept hfound
  | some value =>
    rw [hcache] at hfound
    dsimp only at hfound
    by_cases hsame : other = request_id
    · subst hsame
      rw [Dict.get?_set_self] at hfound
      cases hfound
      exact hkept other kept hcache
    · rw [Dict.get?_set_of_ne _ _ hsame, Dict.get?_pop_of_ne _ hsame] at hfound
      exact hkept other kept hfound

/-- What is kept stays sendable as long as the clients are answered. -/
theorem Kept.serve_once (hkept : self.Kept interpreter) (hserved : (self.serve_once interpreter client).1 = .ok true) :
    (self.serve_once interpreter client).2.Kept interpreter := by
  by_cases hallowed : self.peer_allowed client.credentials = true
  swap
  · unfold FrameServer.serve_once
    rw [if_pos (by simpa using hallowed)]
    exact hkept
  by_cases hidentified : ∃ request_id content, self.Identified interpreter client request_id content
  · obtain ⟨request_id, content, hidentified⟩ := hidentified
    cases hcache : self.cache.get? request_id with
    | some kept =>
      have hrespond := respond_of_kept hidentified hcache
      by_cases hsame : kept.1 = interpreter.sha256 content
      · rw [if_pos hsame] at hrespond
        rw [(serve_once_of_response hallowed hrespond).2]
        exact hkept.move_to_end request_id
      · rw [if_neg hsame] at hrespond
        rw [(serve_once_of_response hallowed hrespond).2]
        exact hkept
    | none =>
      have hrespond := respond_of_fresh hidentified hcache
      cases hresponse : dispatch_response request_id client.dispatch with
      | ok response =>
        rw [hresponse] at hrespond
        have hanswered := (serve_once_of_response hallowed hrespond).1.mp hserved
        rw [(serve_once_of_response hallowed hrespond).2]
        exact hkept.keep request_id _ hanswered.1
      | error error =>
        rw [hresponse] at hrespond
        unfold FrameServer.serve_once at hserved
        rw [hallowed, hrespond] at hserved
        cases hserved
  · obtain ⟨response, hrespond⟩ : ∃ response, self.respond interpreter client = (.ok response, self) := by
      cases hreceive : receive_frame interpreter self.max_frame_bytes client.arrivals with
      | error error => exact ⟨_, respond_of_unreadable hreceive⟩
      | ok request =>
        cases hidentify : identify interpreter request with
        | ok identified => exact absurd ⟨identified.1, identified.2, request, hreceive, hidentify⟩ hidentified
        | error error => exact ⟨_, respond_of_invalid hreceive hidentify⟩
    rw [(serve_once_of_response hallowed hrespond).2]
    exact hkept

theorem serve_once_iff : (self.serve_once interpreter client).1 = .ok true ↔
    (self.peer_allowed client.credentials = true →
      self.Answerable interpreter client ∧ self.Repeatable interpreter client) := by
  by_cases hallowed : self.peer_allowed client.credentials = true
  · rw [serve_once_allowed_iff hallowed]
    exact ⟨fun hboth _ => hboth, fun hboth => hboth hallowed⟩
  · refine iff_of_true ?_ fun hrefused => absurd hrefused hallowed
    unfold serve_once
    rw [if_pos (by simpa using hallowed)]

/-- Sending a kept response again never fails where all of them can be sent. -/
theorem Kept.repeatable (hkept : self.Kept interpreter) : self.Repeatable interpreter client :=
  fun request_id _ kept _ hcache _ => hkept request_id kept hcache

theorem serve_once_eq_true {served : Bool} (hserved : (self.serve_once interpreter client).1 = .ok served) :
    (self.serve_once interpreter client).1 = .ok true := by
  unfold serve_once at hserved ⊢
  split at hserved
  · rename_i hrefused
    rw [if_pos hrefused]
  · rename_i hallowed
    rw [if_neg hallowed]
    split at hserved
    · cases hserved
    split at hserved
    · cases hserved
    split at hserved
    · cases hserved
    all_goals rfl

/-- A run goes on to its end exactly when all its clients can be answered. -/
theorem Kept.serve_all_iff (hkept : self.Kept interpreter) (clients : List Client) :
    (self.serve_all interpreter clients).1 = .ok () ↔ self.AllAnswerable interpreter clients := by
  induction clients generalizing self with
  | nil => exact iff_of_true rfl trivial
  | cons client rest ih =>
    have hserve_once : (self.serve_once interpreter client).1 = .ok true ↔ _ := serve_once_iff
    rw [and_iff_left hkept.repeatable] at hserve_once
    unfold serve_all AllAnswerable
    rw [← hserve_once]
    split
    · rename_i hserved
      rw [hserved]
      exact iff_of_false (fun hok => nomatch hok) fun hboth => nomatch hboth.1
    · rename_i hserved
      have htrue := serve_once_eq_true (congrArg Prod.fst hserved)
      have hafter := hkept.serve_once htrue
      rw [hserved] at hafter
      rw [htrue, hserved]
      exact (ih hafter).trans ⟨fun hrest => ⟨rfl, hrest⟩, fun hboth => hboth.2⟩

end FrameServer

/-- Whatever a server keeps, a client that is allowed is answered exactly when its answer fits; and a server that starts
with nothing kept goes on through all its clients exactly when each can be answered in its turn: what it has sent, it can
send again. -/
theorem server_survives_iff (interpreter : Interpreter) :
    (∀ (server : FrameServer) (client : Client), (server.serve_once interpreter client).1 = .ok true ↔
      (server.peer_allowed client.credentials = true →
        server.Answerable interpreter client ∧ server.Repeatable interpreter client)) ∧
    ∀ (server : FrameServer) (clients : List Client),
      (FrameServer.serve_all interpreter { server with cache := .empty } clients).1 = .ok () ↔
        FrameServer.AllAnswerable interpreter { server with cache := .empty } clients := by
  refine ⟨fun server client => FrameServer.serve_once_iff, fun server clients => ?_⟩
  have hkept : FrameServer.Kept interpreter { server with cache := .empty } := fun _ _ hnone => nomatch hnone
  exact hkept.serve_all_iff clients

/-- The request to run accepted work. -/
def run_accepted_request : JsonMessage usual_interpreter where
  entries :=
    [("authority", .text "none"), ("canonical", .bool false), ("grants_actuation", .bool false),
      ("grants_authority", .bool false), ("grants_execution", .bool false), ("kind", .text "request"),
      ("operation", .text "run_accepted"), ("payload", .object [("work_id", .text "w1")]), ("protocol", .text PROTOCOL),
      ("request_id", .text "r1"), ("transport_only", .bool true)]
  distinct := ⟨by decide, trivial, trivial, trivial, trivial, trivial, trivial, trivial,
    ⟨by decide, trivial, trivial⟩, trivial, trivial, trivial, trivial⟩
  readable := fun _ hnone => nomatch hnone

/-- A server for one user, with the limit that a server has by default. -/
def runner_server : FrameServer where
  allowed_uids := [1000]
  allowed_gids := []
  request_cache_size := 512
  max_frame_bytes := 262144
  cache := .empty
  cache_size_positive := by decide
  frame_limit := by decide

/-- A client that sends a frame with a request whose handler answers with a score that is not a number. -/
def scored_client (frame : ByteArray) : Client where
  credentials := ⟨10, 1000, 1000⟩
  arrivals := [.bytes frame.data.toList]
  dispatch := .returned (.mapping [("outcome", .mapping [("score", .float .nan)])])
  sent := .delivered

def scored_response : WireMessage :=
  success_message "r1" (.mapping [("outcome", .mapping [("score", .float .nan)])])

omit [StrLower] in
/-- The request arrives well formed and is dispatched, and the response cannot be written: the error ends the loop. -/
theorem nan_result_stops_server :
    letI := StrLower.ascii
    ∃ frame, send_frame usual_interpreter 262144 run_accepted_request.message = .ok frame ∧
      (runner_server.serve_once usual_interpreter (scored_client frame)).1 =
        .error (transport_error "Unix RPC message is not canonical JSON data") := by
  let := StrLower.ascii
  have hsize : text_size (message_text usual_interpreter run_accepted_request.message) = 260 := by
    rw [text_size_eq_sum]
    decide +kernel
  obtain ⟨frame, hframe⟩ : Sendable usual_interpreter 262144 run_accepted_request.message := by
    refine sendable_iff.mpr ⟨by decide, ?_, ?_⟩
    · rw [hsize]
      decide
    · rw [hsize]
      decide
  refine ⟨frame, hframe, ?_⟩
  have hreads : usual_interpreter.Reads usual_interpreter := ⟨rfl, fun _ hmany => hmany, Nat.le_refl 990⟩
  have harrivals : delivered (scored_client frame).arrivals = frame.data.toList ++ [] := by
    rw [List.append_nil]
    change delivered [.bytes frame.data.toList] = frame.data.toList
    cases frame.data.toList with
    | nil => rfl
    | cons byte rest => exact congrArg (byte :: ·) (List.append_nil rest)
  obtain ⟨received, hreceive, hitems⟩ := receive_frame_of_sent hreads hframe harrivals
  have hreceived : received = ⟨run_accepted_request.entries, run_accepted_request.distinct.1⟩ :=
    Dict.eq_of_items (hitems.trans rfl)
  have hidentify : ∃ content, identify usual_interpreter received = .ok ("r1", content) := by
    rw [hreceived]
    exact ⟨_, rfl⟩
  obtain ⟨content, hidentify⟩ := hidentify
  have hidentified : runner_server.Identified usual_interpreter (scored_client frame) "r1" content :=
    ⟨received, hreceive, hidentify⟩
  have hrespond : runner_server.respond usual_interpreter (scored_client frame) = (.ok scored_response,
      runner_server.keep "r1" (usual_interpreter.sha256 content) scored_response) :=
    FrameServer.respond_of_fresh hidentified rfl
  have hsend : ∀ fingerprint, send_frame usual_interpreter
      (runner_server.keep "r1" fingerprint scored_response).max_frame_bytes scored_response =
        .error (transport_error "Unix RPC message is not canonical JSON data") := fun _ => rfl
  have hallowed : runner_server.peer_allowed (scored_client frame).credentials = true := rfl
  unfold FrameServer.serve_once
  rw [hallowed, hrespond]
  dsimp only
  rw [hsend]
  rfl

end velvet.distributed_work_unix_transport

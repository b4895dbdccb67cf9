import VelvetRuntime.UnixTransport.Server

open python python.str

namespace velvet.distributed_work_unix_transport

theorem is_exception_of_failure {request_id : String} {error raised : Error}
    (hfailure : failure request_id error = .error raised) : raised.is_exception = false := by
  unfold failure at hfailure
  split at hfailure
  · cases hfailure
  · rename_i hnot
    cases hfailure
    simpa using hnot

namespace UnixRpcServer

/-- The response to a request is in the cache, as long as there was room for it since it was last used. -/
def Held (self : UnixRpcServer) (request_id fingerprint : String) (response : Response) (touched : List String) :
    Prop :=
  (since request_id touched).card < self.request_cache_size →
    self.cache.Recent request_id (fingerprint, response) (since request_id touched)

/-- Another request that is dispatched or answered from the cache is one more since the last use. -/
theorem Held.insert {self after : UnixRpcServer} {request_id fingerprint other : String} {response : Response}
    {touches : List String} (hheld : self.Held request_id fingerprint response touches)
    (hne : other ≠ request_id) (hsize : after.request_cache_size = self.request_cache_size)
    (hafter : self.cache.Recent request_id (fingerprint, response) (since request_id touches) →
      (insert other (since request_id touches)).card < self.request_cache_size →
      after.cache.Recent request_id (fingerprint, response) (insert other (since request_id touches))) :
    after.Held request_id fingerprint response (touches ++ [other]) := by
  intro hroom
  rw [since_append_of_ne hne, hsize] at hroom
  rw [since_append_of_ne hne]
  have hfewer := Finset.card_le_card (Finset.subset_insert other (since request_id touches))
  exact hafter (hheld (by omega)) hroom

end UnixRpcServer

section

variable [StrLower] (builtins : Builtins)

namespace UnixRpcServer

/-- The request that a connection hands to a running server: its id and its canonical content. -/
def requested (self : UnixRpcServer) (connection : Connection) : Option (String × String) :=
  if self.closed then none
  else
    match connection.credentials, connection.frame with
    | .ok credentials, .ok request =>
      if self.peer_allowed credentials then do
        let request_id ← (validate_request builtins request).toOption
        let content ← builtins.canonical_bytes request
        some (request_id, content)
      else none
    | _, _ => none

/-- The request id that a connection has the server dispatch or answer from its cache. -/
def touched (self : UnixRpcServer) (connection : Connection) : Option String :=
  match self.requested builtins connection with
  | none => none
  | some (request_id, content) =>
    match self.cache.get? request_id with
    | none => some request_id
    | some (fingerprint, _) => if fingerprint = builtins.sha256 content then some request_id else none

/-- The request ids that a run dispatches or answers from the cache, in order. -/
def touched_by : UnixRpcServer → List Connection → List String
  | _, [] => []
  | self, connection :: rest =>
    (self.touched builtins connection).toList ++ (self.serve builtins connection).touched_by rest

/-- The request ids that the server dispatches for a connection. -/
def dispatched (self : UnixRpcServer) (connection : Connection) : List String :=
  (self.serve builtins connection).dispatches.drop self.dispatches.length

/-- The response of the server to a connection. -/
def answer (self : UnixRpcServer) (connection : Connection) : Option Response :=
  if self.closed then none
  else
    match (self.respond builtins connection).1 with
    | .ok response => response
    | .error _ => none

/-- Whenever a request with the id arrives and the id was dispatched or answered from the cache before,
fewer distinct other ids than the cache has room for were dispatched or answered from it since. -/
def Retained (self : UnixRpcServer) (connections : List Connection) (request_id : String) : Prop :=
  ∀ earlier call later content, connections = earlier ++ call :: later →
    (self.run builtins earlier).requested builtins call = some (request_id, content) →
    request_id ∈ self.touched_by builtins earlier →
    (since request_id (self.touched_by builtins earlier)).card < self.request_cache_size

/-- No two of the requests have one hash and different contents. -/
def NoCollision (connections : List Connection) : Prop :=
  ∀ call ∈ connections, ∀ other ∈ connections, ∀ request other_request content other_content,
    call.frame = .ok request → other.frame = .ok other_request →
    builtins.canonical_bytes request = some content → builtins.canonical_bytes other_request = some other_content →
    builtins.sha256 content = builtins.sha256 other_content → content = other_content

/-- A request with an id that was dispatched is not dispatched again. With the same content it gets the
response of that dispatch, and with another content it is rejected and the cache stays as it is. -/
def DispatchedOnce (self : UnixRpcServer) (connections : List Connection) (request_id : String) : Prop :=
  ∀ earlier first between again later content other_content,
    connections = earlier ++ first :: (between ++ again :: later) →
    (self.run builtins earlier).requested builtins first = some (request_id, content) →
    (self.run builtins earlier).dispatched builtins first = [request_id] →
    (self.run builtins (earlier ++ first :: between)).requested builtins again = some (request_id, other_content) →
    (self.run builtins (earlier ++ first :: between)).dispatched builtins again = [] ∧
      (other_content = content →
        (self.run builtins (earlier ++ first :: between)).answer builtins again =
          (self.run builtins earlier).answer builtins first) ∧
      (other_content ≠ content →
        (self.run builtins (earlier ++ first :: between)).answer builtins again = some (reuse_response request_id) ∧
        ((self.run builtins (earlier ++ first :: between)).serve builtins again).cache =
          (self.run builtins (earlier ++ first :: between)).cache)

/-- How one connection leaves the server, with the response to it. -/
inductive Served (before : UnixRpcServer) (connection : Connection) : Option Response → UnixRpcServer → Prop where
  | ignored {answer : Option Response} {after : UnixRpcServer}
    (hrequested : before.requested builtins connection = none) (hcache : after.cache = before.cache)
    (hdispatches : after.dispatches = before.dispatches) : Served before connection answer after
  | replayed {after : UnixRpcServer} (request_id content : String) (response : Response)
    (hrequested : before.requested builtins connection = some (request_id, content))
    (hcached : before.cache.get? request_id = some (builtins.sha256 content, response))
    (hcache : after.cache = (before.cache.pop request_id).set request_id (builtins.sha256 content, response))
    (hdispatches : after.dispatches = before.dispatches) : Served before connection (some response) after
  | rejected {after : UnixRpcServer} (request_id content fingerprint : String) (response : Response)
    (hrequested : before.requested builtins connection = some (request_id, content))
    (hcached : before.cache.get? request_id = some (fingerprint, response))
    (hcontent : fingerprint ≠ builtins.sha256 content) (hcache : after.cache = before.cache)
    (hdispatches : after.dispatches = before.dispatches) :
    Served before connection (some (reuse_response request_id)) after
  | dispatched {after : UnixRpcServer} (request_id content : String) (response : Response)
    (hrequested : before.requested builtins connection = some (request_id, content))
    (hnew : before.cache.get? request_id = none)
    (hcache : after.cache = ((before.cache.pop request_id).set request_id
      (builtins.sha256 content, response)).keep_last before.request_cache_size)
    (hdispatches : after.dispatches = before.dispatches ++ [request_id]) :
    Served before connection (some response) after
  | interrupted {after : UnixRpcServer} (request_id content : String)
    (hrequested : before.requested builtins connection = some (request_id, content))
    (hnew : before.cache.get? request_id = none) (hclosed : after.closed = true)
    (hcache : after.cache = before.cache) (hdispatches : after.dispatches = before.dispatches ++ [request_id]) :
    Served before connection none after

variable {builtins}

/-- Sending the response only decides whether the server goes on. -/
theorem serve_of_open {self : UnixRpcServer} (connection : Connection) (hopen : self.closed = false) :
    ∃ closed, self.serve builtins connection = { (self.respond builtins connection).2 with closed } ∧
      ((self.respond builtins connection).1.isOk = false → closed = true) := by
  unfold serve serve_once
  rw [hopen]
  simp only [Bool.false_eq_true, if_false]
  rcases hrespond : self.respond builtins connection with ⟨result, after⟩
  cases result with
  | error error => exact ⟨true, rfl, fun _ => rfl⟩
  | ok answer =>
    cases answer with
    | none => exact ⟨after.closed, rfl, fun herror => by simp [Except.isOk, Except.toBool] at herror⟩
    | some response =>
      cases connection.sent with
      | raised error => exact ⟨true, rfl, fun _ => rfl⟩
      | delivered => exact ⟨after.closed, rfl, fun herror => by simp [Except.isOk, Except.toBool] at herror⟩
      | lost => exact ⟨after.closed, rfl, fun herror => by simp [Except.isOk, Except.toBool] at herror⟩

variable (self : UnixRpcServer)

theorem request_cache_size_handle_request (request : Dict String Json)
    (dispatch : Dispatched) :
    (self.handle_request builtins request dispatch).2.request_cache_size = self.request_cache_size := by
  unfold handle_request
  split
  · rfl
  · split
    · rfl
    · split
      · split <;> rfl
      · unfold dispatch_request
        dsimp only
        split <;> rfl

theorem request_cache_size_serve (connection : Connection) :
    (self.serve builtins connection).request_cache_size = self.request_cache_size := by
  cases hclosed : self.closed with
  | true => simp [serve, hclosed]
  | false =>
    obtain ⟨closed, hserve, _⟩ := serve_of_open connection hclosed
    rw [hserve]
    change (self.respond builtins connection).2.request_cache_size = _
    unfold respond
    split
    · rfl
    · split
      · rfl
      · split
        · rfl
        · rename_i request _
          have hsize := @request_cache_size_handle_request _ builtins self request connection.dispatch
          split <;> simp_all

variable {request_id content : String} {request : Dict String Json} {dispatch : Dispatched}

section

variable (hvalid : validate_request builtins request = .ok request_id)
variable (hcontent : builtins.canonical_bytes request = some content)

include hvalid hcontent

/-- A request that was validated and encoded only raises what the server does not catch. -/
theorem is_exception_of_handle_request {self : UnixRpcServer} {error : Error}
    (herror : (self.handle_request builtins request dispatch).1 = .error error) : error.is_exception = false := by
  unfold handle_request at herror
  rw [hvalid] at herror
  dsimp only at herror
  rw [hcontent] at herror
  dsimp only at herror
  split at herror
  · split at herror <;> cases herror
  · unfold dispatch_request at herror
    dsimp only at herror
    split at herror
    · rename_i hresponse
      cases herror
      cases dispatch with
      | returned result => cases hresponse
      | not_a_mapping => exact is_exception_of_failure hresponse
      | raised raised => exact is_exception_of_failure hresponse
    · cases herror

/-- A request that was validated, encoded and handed to a running server. -/
theorem handle_request_eq {self : UnixRpcServer} :
    self.handle_request builtins request dispatch =
      match self.cache.get? request_id with
      | some (cached_fingerprint, cached_response) =>
        if cached_fingerprint ≠ builtins.sha256 content then (.ok (reuse_response request_id), self)
        else (.ok cached_response, { self with cache := self.cache.move_to_end request_id })
      | none => self.dispatch_request request_id (builtins.sha256 content) dispatch := by
  unfold handle_request
  rw [hvalid]
  dsimp only
  rewrite [hcontent]
  rfl

theorem served_of_request {self : UnixRpcServer} {connection : Connection} {closed : Bool}
    (hrequested : self.requested builtins connection = some (request_id, content)) {answer : Option Response}
    (hanswer : answer = (self.handle_request builtins request connection.dispatch).1.toOption)
    (hclosed : (self.handle_request builtins request connection.dispatch).1.isOk = false → closed = true) :
    Served builtins self connection answer
      { (self.handle_request builtins request connection.dispatch).2 with closed } := by
  rw [handle_request_eq hvalid hcontent] at hanswer hclosed ⊢
  cases hcached : self.cache.get? request_id with
  | some cached =>
    obtain ⟨fingerprint, response⟩ := cached
    rw [hcached] at hanswer hclosed
    dsimp only at hanswer hclosed ⊢
    by_cases hsame : fingerprint = builtins.sha256 content
    · rw [if_neg (not_not_intro hsame)] at hanswer ⊢
      rw [hsame] at hcached
      cases hanswer
      refine .replayed request_id content response hrequested hcached ?_ rfl
      simp [Dict.move_to_end, hcached]
    · rw [if_pos hsame] at hanswer ⊢
      cases hanswer
      exact .rejected request_id content fingerprint response hrequested hcached hsame rfl rfl
  | none =>
    rw [hcached] at hanswer hclosed
    dsimp only at hanswer hclosed ⊢
    unfold dispatch_request at hanswer hclosed ⊢
    dsimp only at hanswer hclosed ⊢
    cases hresponse : dispatch_response request_id connection.dispatch with
    | ok response =>
      rw [hresponse] at hanswer
      cases hanswer
      exact .dispatched request_id content response hrequested hcached rfl rfl
    | error error =>
      rw [hresponse] at hanswer hclosed
      cases hanswer
      exact .interrupted request_id content hrequested hcached (hclosed rfl) rfl rfl

end

theorem serve_served (connection : Connection) :
    Served builtins self connection (self.answer builtins connection) (self.serve builtins connection) := by
  cases hopen : self.closed with
  | true => exact .ignored (by simp [requested, hopen]) (by simp [serve, hopen]) (by simp [serve, hopen])
  | false =>
    obtain ⟨closed, hserve, hclosed⟩ := serve_of_open connection hopen
    have hignored : self.requested builtins connection = none → (self.respond builtins connection).2 = self →
        Served builtins self connection (self.answer builtins connection) (self.serve builtins connection) := by
      intro hnone hsame
      rw [hserve, hsame]
      exact .ignored hnone rfl rfl
    cases hcredentials : connection.credentials with
    | error error => exact hignored (by simp [requested, hcredentials]) (by simp [respond, hcredentials])
    | ok credentials =>
      by_cases hallowed : self.peer_allowed credentials = true
      · cases hframe : connection.frame with
        | error error =>
          exact hignored (by simp [requested, hframe]) (by simp [respond, hcredentials, hallowed, hframe])
        | ok request =>
          cases hvalid : validate_request builtins request with
          | error error =>
            refine hignored ?_ ?_
            · simp [requested, hcredentials, hallowed, hframe, hvalid, Except.toOption]
            · simp [respond, hcredentials, hallowed, hframe, handle_request, hvalid]
          | ok request_id =>
            cases hcontent : builtins.canonical_bytes request with
            | none =>
              refine hignored ?_ ?_
              · simp [requested, hcredentials, hallowed, hframe, hvalid, hcontent, Except.toOption]
              · simp [respond, hcredentials, hallowed, hframe, handle_request, hvalid, hcontent]
            | some content =>
              have hrequested : self.requested builtins connection = some (request_id, content) := by
                simp [requested, hopen, hcredentials, hallowed, hframe, hvalid, hcontent, Except.toOption]
              have hrespond : self.respond builtins connection =
                  ((self.handle_request builtins request connection.dispatch).1.map some,
                    (self.handle_request builtins request connection.dispatch).2) := by
                unfold respond
                rw [hcredentials, hframe]
                simp only [hallowed, Bool.not_true, Bool.false_eq_true, if_false]
                rcases hhandle : self.handle_request builtins request connection.dispatch with ⟨result, after⟩
                cases result with
                | ok response => rfl
                | error error =>
                  have hnot := is_exception_of_handle_request hvalid hcontent (congrArg Prod.fst hhandle)
                  simp [failure, hnot, Except.map]
              rw [hserve, hrespond]
              refine served_of_request hvalid hcontent hrequested ?_ ?_
              · unfold answer
                rw [hrespond, hopen]
                cases (self.handle_request builtins request connection.dispatch).1 <;> rfl
              · intro herror
                apply hclosed
                rw [hrespond]
                revert herror
                cases (self.handle_request builtins request connection.dispatch).1 <;> exact id
      · refine hignored ?_ ?_
        · cases hframe : connection.frame <;> simp [requested, hcredentials, hallowed, hframe]
        · simp [respond, hcredentials, hallowed]

variable (connections : List Connection)

theorem run_concat (connection : Connection) :
    self.run builtins (connections ++ [connection]) = (self.run builtins connections).serve builtins connection :=
  List.foldl_append

theorem request_cache_size_run :
    (self.run builtins connections).request_cache_size = self.request_cache_size := by
  induction connections using List.reverseRecOn with
  | nil => rfl
  | append_singleton earlier connection ih => rw [run_concat, request_cache_size_serve, ih]

theorem touched_by_concat (connection : Connection) :
    self.touched_by builtins (connections ++ [connection]) = self.touched_by builtins connections ++
      ((self.run builtins connections).touched builtins connection).toList := by
  induction connections generalizing self with
  | nil => simp [touched_by, run]
  | cons first rest ih =>
    rw [List.cons_append, touched_by, touched_by, ih, List.append_assoc]
    rfl

variable {self : UnixRpcServer} {connection : Connection} {request_id fingerprint content : String}
  {response : Response} {touches : List String}

/-- One connection keeps the response that is held, when there is room whenever the request comes again. -/
theorem Held.serve (hheld : self.Held request_id fingerprint response touches)
    (hretained : ∀ content, self.requested builtins connection = some (request_id, content) →
      (since request_id touches).card < self.request_cache_size) :
    (self.serve builtins connection).Held request_id fingerprint response
      (touches ++ (self.touched builtins connection).toList) := by
  have hsize := @request_cache_size_serve _ builtins self connection
  have hsame : self.touched builtins connection = none →
      (self.serve builtins connection).cache = self.cache →
      (self.serve builtins connection).Held request_id fingerprint response
        (touches ++ (self.touched builtins connection).toList) := by
    intro hnone hcache
    rw [hnone, Option.toList_none, List.append_nil]
    unfold Held
    rw [hsize, hcache]
    exact hheld
  have hserved := @serve_served _ builtins self connection
  generalize self.answer builtins connection = answer at hserved
  cases hserved with
  | ignored hrequested hcache hdispatches => exact hsame (by simp [touched, hrequested]) hcache
  | rejected other content cached kept hrequested hcached hcontent hcache hdispatches =>
    exact hsame (by simp [touched, hrequested, hcached, hcontent]) hcache
  | replayed other content kept hrequested hcached hcache hdispatches =>
    have htouched : self.touched builtins connection = some other := by simp [touched, hrequested, hcached]
    rw [htouched, Option.toList_some]
    by_cases hother : other = request_id
    · -- The request itself: what is held is what was cached, and it is moved to the end.
      subst hother
      have hget := (hheld (hretained content hrequested)).get?
      rw [hcached] at hget
      intro _
      rw [hcache, Option.some.inj hget, since_append_self]
      exact Dict.recent_pop_set _ _ _
    · refine hheld.insert hother hsize ?_
      intro hrecent _
      rw [hcache]
      exact hrecent.pop_set (Ne.symm hother)
  | dispatched other content made hrequested hnew hcache hdispatches =>
    have htouched : self.touched builtins connection = some other := by simp [touched, hrequested, hnew]
    rw [htouched, Option.toList_some]
    have hother : other ≠ request_id := by
      rintro rfl
      have hget := (hheld (hretained content hrequested)).get?
      rw [hnew] at hget
      cases hget
    refine hheld.insert hother hsize ?_
    intro hrecent hroom
    rw [hcache]
    exact (hrecent.pop_set (Ne.symm hother)).keep_last hroom
  | interrupted other content hrequested hnew hclosed hcache hdispatches =>
    have htouched : self.touched builtins connection = some other := by simp [touched, hrequested, hnew]
    rw [htouched, Option.toList_some]
    have hother : other ≠ request_id := by
      rintro rfl
      have hget := (hheld (hretained content hrequested)).get?
      rw [hnew] at hget
      cases hget
    refine hheld.insert hother hsize ?_
    intro hrecent _
    rw [hcache]
    exact hrecent.mono (Finset.subset_insert _ _)

/-- A connection that the server dispatches a request for: the request is new. -/
theorem of_dispatched {dispatched_id : String} (hdispatched : self.dispatched builtins connection = [dispatched_id])
    (hrequested : self.requested builtins connection = some (request_id, content)) :
    self.cache.get? request_id = none ∧ self.touched builtins connection = some request_id ∧
      ((self.serve builtins connection).closed = true ∨
        ∃ response, self.answer builtins connection = some response ∧
          (self.serve builtins connection).cache = ((self.cache.pop request_id).set request_id
            (builtins.sha256 content, response)).keep_last self.request_cache_size) := by
  have hnothing : (self.serve builtins connection).dispatches = self.dispatches → False := by
    intro hsame
    unfold dispatched at hdispatched
    rw [hsame, List.drop_length] at hdispatched
    cases hdispatched
  have hserved := @serve_served _ builtins self connection
  generalize hanswer : self.answer builtins connection = answer at hserved ⊢
  cases hserved with
  | ignored hnone _ hdispatches => exact (hnothing hdispatches).elim
  | rejected _ _ _ _ _ _ _ _ hdispatches => exact (hnothing hdispatches).elim
  | replayed _ _ _ _ _ _ hdispatches => exact (hnothing hdispatches).elim
  | dispatched other found response hother hnew hcache hdispatches =>
    cases Option.some.inj (hrequested.symm.trans hother)
    exact ⟨hnew, by simp [touched, hrequested, hnew], Or.inr ⟨response, rfl, hcache⟩⟩
  | interrupted other found hother hnew hclosed hcache hdispatches =>
    cases Option.some.inj (hrequested.symm.trans hother)
    exact ⟨hnew, by simp [touched, hrequested, hnew], Or.inl hclosed⟩

/-- What a request gets whose response is held. -/
theorem Held.answer (hheld : self.Held request_id fingerprint response touches)
    (hroom : (since request_id touches).card < self.request_cache_size)
    (hrequested : self.requested builtins connection = some (request_id, content)) :
    self.dispatched builtins connection = [] ∧
      (fingerprint = builtins.sha256 content → self.answer builtins connection = some response) ∧
      (fingerprint ≠ builtins.sha256 content →
        self.answer builtins connection = some (reuse_response request_id) ∧
        (self.serve builtins connection).cache = self.cache) := by
  have hget := (hheld hroom).get?
  have hserved := @serve_served _ builtins self connection
  unfold dispatched
  generalize self.answer builtins connection = answer at hserved ⊢
  cases hserved with
  | ignored hnone _ _ =>
    rw [hrequested] at hnone
    cases hnone
  | rejected other found cached kept hother hcached hcontent hcache hdispatches =>
    cases Option.some.inj (hrequested.symm.trans hother)
    cases Option.some.inj (hget.symm.trans hcached)
    exact ⟨by rw [hdispatches, List.drop_length], fun hsame => absurd hsame hcontent, fun _ => ⟨rfl, hcache⟩⟩
  | replayed other found kept hother hcached hcache hdispatches =>
    cases Option.some.inj (hrequested.symm.trans hother)
    cases Option.some.inj (hget.symm.trans hcached)
    exact ⟨by rw [hdispatches, List.drop_length], fun _ => rfl, fun hdiffers => absurd rfl hdiffers⟩
  | dispatched other found made hother hnew _ _ =>
    cases Option.some.inj (hrequested.symm.trans hother)
    rw [hget] at hnew
    cases hnew
  | interrupted other found hother hnew _ _ _ =>
    cases Option.some.inj (hrequested.symm.trans hother)
    rw [hget] at hnew
    cases hnew

theorem of_requested (hrequested : self.requested builtins connection = some (request_id, content)) :
    self.closed = false ∧
      ∃ request, connection.frame = .ok request ∧ builtins.canonical_bytes request = some content := by
  unfold requested at hrequested
  split at hrequested
  · cases hrequested
  · rename_i hopen
    split at hrequested
    · rename_i credentials request _ hframe
      split at hrequested
      · cases hvalid : validate_request builtins request with
        | error error => simp [hvalid, Except.toOption] at hrequested
        | ok identifier =>
          cases hcontent : builtins.canonical_bytes request with
          | none => simp [hvalid, hcontent, Except.toOption] at hrequested
          | some found =>
            have hsame : identifier = request_id ∧ found = content := by
              simpa [hvalid, hcontent, Except.toOption] using hrequested
            exact ⟨by simpa using hopen, request, hframe, by rw [hcontent, hsame.2]⟩
      · cases hrequested
    · cases hrequested

theorem run_append (self : UnixRpcServer) (earlier later : List Connection) :
    self.run builtins (earlier ++ later) = (self.run builtins earlier).run builtins later :=
  List.foldl_append

/-- A server that is closed stays closed. -/
theorem closed_run (hclosed : self.closed = true) (connections : List Connection) :
    (self.run builtins connections).closed = true := by
  induction connections using List.reverseRecOn with
  | nil => exact hclosed
  | append_singleton earlier connection ih =>
    rw [run_concat]
    simp [serve, ih]

/-- From its dispatch on, the response to a request is held through every run that retains it. -/
theorem held_run {connections earlier between rest : List Connection} {first : Connection}
    (hretained : self.Retained builtins connections request_id)
    (hsplit : connections = earlier ++ first :: (between ++ rest))
    (hheld : (self.run builtins (earlier ++ [first])).Held request_id fingerprint response
      (self.touched_by builtins (earlier ++ [first])))
    (htouched : request_id ∈ self.touched_by builtins (earlier ++ [first])) :
    (self.run builtins (earlier ++ first :: between)).Held request_id fingerprint response
        (self.touched_by builtins (earlier ++ first :: between)) ∧
      request_id ∈ self.touched_by builtins (earlier ++ first :: between) := by
  induction between using List.reverseRecOn generalizing rest with
  | nil => exact ⟨hheld, htouched⟩
  | append_singleton calls call ih =>
    obtain ⟨hbefore, hin⟩ := @ih (call :: rest) (by simpa using hsplit)
    have hconcat : earlier ++ first :: (calls ++ [call]) = (earlier ++ first :: calls) ++ [call] := by simp
    rw [hconcat, run_concat, touched_by_concat]
    refine ⟨hbefore.serve ?_, List.mem_append_left _ hin⟩
    intro content hrequested
    rw [request_cache_size_run]
    exact hretained (earlier ++ first :: calls) call rest content (by simp [hsplit]) hrequested hin

end UnixRpcServer

end

/-- The response of a request stays in the cache while fewer other requests than the cache has room for
use it. In every run of a server, for every request id that is retained, a request that was dispatched is
not dispatched again: with the same content it gets the response of the dispatch, with another content it
is rejected. -/
theorem request_dispatched_once [StrLower] (builtins : Builtins) (allowed_uids allowed_gids : List Nat)
    (request_cache_size : Nat) (hpositive : 1 ≤ request_cache_size) (connections : List Connection)
    (hcollision : UnixRpcServer.NoCollision builtins connections) (request_id : String)
    (hretained : (UnixRpcServer.new allowed_uids allowed_gids request_cache_size hpositive).Retained builtins
      connections request_id) :
    (UnixRpcServer.new allowed_uids allowed_gids request_cache_size hpositive).DispatchedOnce builtins connections
      request_id := by
  intro earlier first between again later content other_content hsplit hfirst hdispatched hagain
  set server := UnixRpcServer.new allowed_uids allowed_gids request_cache_size hpositive
  obtain ⟨_, htouched, hends⟩ := UnixRpcServer.of_dispatched hdispatched hfirst
  obtain ⟨hopen, again_request, hagain_frame, hagain_content⟩ := UnixRpcServer.of_requested hagain
  obtain ⟨_, first_request, hfirst_frame, hfirst_content⟩ := UnixRpcServer.of_requested hfirst
  have hstart : server.run builtins (earlier ++ [first]) = (server.run builtins earlier).serve builtins first :=
    UnixRpcServer.run_concat server earlier first
  have htouches : server.touched_by builtins (earlier ++ [first]) =
      server.touched_by builtins earlier ++ [request_id] := by
    rw [UnixRpcServer.touched_by_concat, htouched, Option.toList_some]
  rcases hends with hclosed | ⟨response, hanswer, hcache⟩
  · -- The dispatch ended the server, so no request comes after it.
    rw [← hstart] at hclosed
    have hafter := @UnixRpcServer.closed_run _ builtins _ hclosed between
    rw [← UnixRpcServer.run_append, List.append_assoc, List.singleton_append, hopen] at hafter
    cases hafter
  · have hheld : (server.run builtins (earlier ++ [first])).Held request_id (builtins.sha256 content) response
        (server.touched_by builtins (earlier ++ [first])) := by
      intro _
      rw [htouches, since_append_self, hstart, hcache]
      refine (Dict.recent_pop_set _ _ _).keep_last ?_
      rw [Finset.card_empty, UnixRpcServer.request_cache_size_run]
      exact hpositive
    obtain ⟨hstill, hin⟩ := UnixRpcServer.held_run hretained hsplit hheld (by rw [htouches]; simp)
    have hroom := hretained (earlier ++ first :: between) again later other_content (by simp [hsplit]) hagain hin
    rw [← UnixRpcServer.request_cache_size_run server (earlier ++ first :: between)] at hroom
    obtain ⟨hnone, hreplayed, hrejected⟩ := hstill.answer hroom hagain
    refine ⟨hnone, ?_, ?_⟩
    · intro hsame
      rw [hanswer]
      exact hreplayed (by rw [hsame])
    · intro hdiffers
      apply hrejected
      intro hhash
      exact hdiffers (hcollision first (by simp [hsplit]) again (by simp [hsplit]) first_request again_request
        content other_content hfirst_frame hagain_frame hfirst_content hagain_content hhash).symm

/-- A request of a specialist to accept. -/
def accept_request : Dict String Json where
  items :=
    [("protocol", .text PROTOCOL), ("kind", .text "request"), ("request_id", .text "r1"),
      ("operation", .text "accept"), ("payload", .object []), ("transport_only", .bool true),
      ("canonical", .bool false), ("grants_authority", .bool false), ("grants_execution", .bool false),
      ("grants_actuation", .bool false), ("authority", .text "none")]
  nodup := by decide

/-- The canonical encoding of `accept_request`. -/
def accept_content : String :=
  "\x7b\"authority\":\"none\",\"canonical\":false,\"grants_actuation\":false,\"grants_authority\":false," ++
    "\"grants_execution\":false,\"kind\":\"request\",\"operation\":\"accept\",\"payload\":\x7b\x7d," ++
    "\"protocol\":\"velvet.runtime.unix.v1\",\"request_id\":\"r1\",\"transport_only\":true\x7d"

/-- The encoding and the hash of `accept_request`. -/
def plain_builtins : Builtins where
  canonical_bytes request := if equals (request.get? "request_id") (.text "r1") then some accept_content else none
  sha256 content :=
    if content = accept_content then "c6716806786904536e84a877decc7272791fe70649511ac97d95b844901aa42f" else content
  isalnum := Char.isAlphanum

/-- The request on a connection of the owner; the dispatch returns an empty result. -/
def accept_connection (sent : Sent) : Connection :=
  ⟨.ok ⟨10, 1000, 1000⟩, .ok accept_request, .returned .empty, sent⟩

/-- The response to the first request is lost. Its retransmission is not dispatched. -/
theorem retransmission_not_dispatched :
    letI := StrLower.ascii
    ((UnixRpcServer.new [1000] [] 1 (by decide)).dispatched plain_builtins (accept_connection .lost)) = ["r1"] ∧
      (UnixRpcServer.new [1000] [] 1 (by decide)).DispatchedOnce plain_builtins
        [accept_connection .lost, accept_connection .delivered] "r1" := by
  have hfirst : letI := StrLower.ascii
      ((UnixRpcServer.new [1000] [] 1 (by decide)).dispatched plain_builtins (accept_connection .lost)) = ["r1"] := by
    decide
  have htouched : letI := StrLower.ascii
      (UnixRpcServer.new [1000] [] 1 (by decide)).touched_by plain_builtins [accept_connection .lost] = ["r1"] := by
    decide
  let := StrLower.ascii
  refine ⟨hfirst, request_dispatched_once plain_builtins [1000] [] 1 (by decide) _ ?_ "r1" ?_⟩
  · intro call hcall other hother request other_request content other_content hframe hother_frame hcontent
      hother_content _
    have hsame : ∀ call ∈ [accept_connection .lost, accept_connection .delivered],
        call.frame = .ok accept_request := by
      simp [accept_connection]
    rw [hsame call hcall] at hframe
    rw [hsame other hother] at hother_frame
    cases hframe
    cases hother_frame
    exact Option.some.inj (hcontent.symm.trans hother_content)
  · intro earlier call later content hsplit _ hin
    rcases earlier with _ | ⟨first, _ | ⟨second, rest⟩⟩
    · cases hin
    · -- The id is the only one that has used the cache.
      cases hsplit
      rw [htouched]
      decide
    · simp at hsplit

end velvet.distributed_work_unix_transport

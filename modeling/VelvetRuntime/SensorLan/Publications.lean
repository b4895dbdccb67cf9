import VelvetRuntime.SensorLan.Server

open python python.json python.socket velvet.sensor_lan_ingress

namespace velvet.sensor_lan_transport

open Program SensorLanTcpServer

variable {platform : Platform} {limits : Limits} {before after : SensorLanTcpServer}

/-- The frame that comes out of a call of `accept`. -/
def Accept.frame (max_frame_bytes : Int) : Accept → Option ByteArray
  | .connection arrivals => frame_of max_frame_bytes (delivered arrivals)
  | .timed_out | .failed _ => none

/-- What the binding publishes of an admission. -/
def publication (admission : SensorLanAdmission) : Publication :=
  ⟨admission.event_type, admission.payload, admission.node_id⟩

/-- What one call of `serve_once` leaves: at most its own frame is published, as an ingress without limits admits it. -/
inductive Serves (platform : Platform) (before : SensorLanTcpServer) (accept : Accept) : SensorLanTcpServer → Prop where
  | nothing {after : SensorLanTcpServer} (hframes : after.max_frame_bytes = before.max_frame_bytes)
    (hingress : after.ingress = before.ingress) (hpublished : after.published = before.published) :
    Serves platform before accept after
  | published {after : SensorLanTcpServer} {raw_message : ByteArray} {admission : SensorLanAdmission}
    (hframe : accept.frame before.max_frame_bytes = some raw_message)
    (hadmits : before.ingress.Admits platform raw_message (.ok admission) after.ingress)
    (hframes : after.max_frame_bytes = before.max_frame_bytes)
    (hpublished : after.published = before.published ++ [publication admission]) :
    Serves platform before accept after

theorem wp_serve_once_serves (accept : Accept) :
    wp (serve_once platform limits accept) (fun _ => Serves platform before accept)
      (fun _ => Serves platform before accept) before := by
  cases hbound : before.bound with
  | false =>
    unfold serve_once
    simp only [wp_bind, wp_get, hbound, Bool.not_false, if_true]
    exact .nothing rfl rfl rfl
  | true =>
    cases accept with
    | timed_out | failed _ =>
      unfold serve_once
      simp only [wp_bind, wp_get, hbound, Bool.not_true, Bool.false_eq_true, if_false]
      exact .nothing rfl rfl rfl
    | connection arrivals =>
      rw [wp_serve_connection hbound, wp_handle_connection]
      cases hframe : frame_of before.max_frame_bytes (delivered arrivals) with
      | none => exact .nothing rfl rfl rfl
      | some raw_message =>
        dsimp only
        cases hchecked : before.ingress.checked_within platform limits raw_message with
        | ok admission =>
          exact .published hframe (SensorLanIngress.admits_of_checked_within hchecked) rfl rfl
        | error error =>
          dsimp only
          split
          · exact .nothing rfl rfl rfl
          · exact .nothing rfl rfl rfl

/-- Of the frames some are published, in their order: those that the ingress without limits is given, and all of which it
admits. -/
def Publishes (platform : Platform) (before : SensorLanTcpServer) (frames : List ByteArray)
    (after : SensorLanTcpServer) : Prop :=
  ∃ (raw_messages : List ByteArray) (admissions : List SensorLanAdmission), raw_messages.Sublist frames ∧
    (admit_all platform before.ingress raw_messages).map Call.outcome = admissions.map .ok ∧
    after.published = before.published ++ admissions.map publication

theorem outcome_of_admits {ingress left : SensorLanIngress} {raw_message : ByteArray} {admission : SensorLanAdmission}
    (hadmits : ingress.Admits platform raw_message (.ok admission) left) :
    (SensorLanIngress.admit_message platform raw_message).result ingress = .ok admission ∧
      (SensorLanIngress.admit_message platform raw_message).after ingress = left := by
  have hown := SensorLanIngress.admits_message platform ingress raw_message
  cases hadmits with
  | admitted hdecode hverify hfresh =>
    have hresult := SensorLanIngress.result_admit_message_eq_ok.mpr ⟨_, hdecode, hverify, hfresh⟩
    rw [hresult] at hown
    refine ⟨hresult, ?_⟩
    generalize (SensorLanIngress.admit_message platform raw_message).after ingress = reached at hown
    cases hown with
    | admitted _ _ _ => rfl

theorem Publishes.of_serves {mid : SensorLanTcpServer} {accept : Accept} {rest : List Accept}
    (hserves : Serves platform before accept mid)
    (hpublishes : Publishes platform mid (rest.filterMap (Accept.frame before.max_frame_bytes)) after) :
    Publishes platform before ((accept :: rest).filterMap (Accept.frame before.max_frame_bytes)) after := by
  obtain ⟨raw_messages, admissions, hsublist, houtcomes, hpublished⟩ := hpublishes
  cases hserves with
  | nothing hframes hingress hsame =>
    rw [hingress] at houtcomes
    rw [hsame] at hpublished
    exact ⟨raw_messages, admissions, hsublist.trans ((List.sublist_cons_self _ _).filterMap _), houtcomes, hpublished⟩
  | @published raw_message admission hframe hadmits hframes hadded =>
    obtain ⟨hresult, hreached⟩ := outcome_of_admits hadmits
    refine ⟨raw_message :: raw_messages, admission :: admissions, ?_, ?_, ?_⟩
    · rw [List.filterMap_cons_some hframe]
      exact hsublist.cons_cons _
    · rw [admit_all, List.map_cons, List.map_cons, hresult, hreached, houtcomes]
    · rw [hpublished, hadded, List.map_cons, List.append_assoc, List.singleton_append]

theorem publishes_serve_all (accepts : List Accept) (before : SensorLanTcpServer) :
    wp (serve_all platform limits accepts)
      (fun _ => Publishes platform before (accepts.filterMap (Accept.frame before.max_frame_bytes)))
      (fun _ => Publishes platform before (accepts.filterMap (Accept.frame before.max_frame_bytes))) before := by
  have hnothing (frames : List ByteArray) (state : SensorLanTcpServer) : Publishes platform state frames state :=
    ⟨[], [], List.nil_sublist _, rfl, (List.append_nil _).symm⟩
  induction accepts generalizing before with
  | nil => exact hnothing _ _
  | cons accept rest ih =>
    rw [serve_all, wp_bind]
    refine wp_mono (wp_serve_once_serves accept) ?_ (fun _ mid hserves => .of_serves hserves (hnothing _ mid))
    intro _ mid hserves
    have hframes : mid.max_frame_bytes = before.max_frame_bytes := by
      cases hserves with
      | nothing hframes _ _ => exact hframes
      | published _ _ hframes _ => exact hframes
    have hrest := ih mid
    rw [hframes] at hrest
    exact wp_mono hrest (fun _ _ => .of_serves hserves) (fun _ _ => .of_serves hserves)

/-- Whatever peers send, and whether or not the loop ends by an exception: the listener has published frames that arrived,
each at most once and in their order, all of which an ingress without limits admits one after the other; so in no session
is a sequence published twice or after a greater one. -/
theorem publications_replay_safe (platform : Platform) (limits : Limits) (before : SensorLanTcpServer)
    (accepts : List Accept) :
    ∃ (raw_messages : List ByteArray) (admissions : List SensorLanAdmission),
      raw_messages.Sublist (accepts.filterMap (Accept.frame before.max_frame_bytes)) ∧
      (admit_all platform before.ingress raw_messages).map Call.outcome = admissions.map .ok ∧
      ((serve_forever platform limits accepts).after before).published = before.published ++ admissions.map publication ∧
      admissions.Pairwise (fun first second => first.node_id = second.node_id →
        first.session_id = second.session_id → first.sequence < second.sequence) := by
  have hended : Publishes platform before (accepts.filterMap (Accept.frame before.max_frame_bytes))
      ((serve_forever platform limits accepts).after before) := by
    apply (wp_result_after (fun _ => Publishes platform before _)).mp
    rw [serve_forever, wp_tryFinally]
    exact publishes_serve_all accepts before
  obtain ⟨raw_messages, admissions, hsublist, houtcomes, hpublished⟩ := hended
  refine ⟨raw_messages, admissions, hsublist, houtcomes, hpublished, ?_⟩
  have hincreasing : ((admit_all platform before.ingress raw_messages).map Call.outcome).Pairwise
      (fun earlier later => ∀ first second, earlier = .ok first → later = .ok second →
        first.node_id = second.node_id → first.session_id = second.session_id → first.sequence < second.sequence) := by
    refine List.pairwise_map.mpr ((pairwise_admit_all platform before.ingress raw_messages).imp_of_mem ?_)
    intro earlier later hearlier hlater hkeeps first second
    exact sequence_lt_of_admits (mem_admit_all hearlier).1 (mem_admit_all hlater).1 hkeeps
  rw [houtcomes] at hincreasing
  exact (List.pairwise_map.mp hincreasing).imp fun hlt => hlt _ _ rfl rfl

end velvet.sensor_lan_transport

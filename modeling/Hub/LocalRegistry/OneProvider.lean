import Hub.LocalRegistry.ClientTable

namespace hub.local_registry

open Event

namespace Tables

/-- A service that is known as a method only and that one name provides, with
its mirror in the produce maps. -/
structure OneProvider (t : Tables) (s : UInt32) (n : Str) : Prop where
  method : ∀ {item}, t.service s = some item → item.service_type = LOCAL_SERVICE_TYPE_METHOD
  owned : t.OwnedAt s
  provided : ∀ {c i}, t.Provides c s i → t.m_clients_by_name.lookup n = some c

/-- The unit of work treats the service as a method of the one name. -/
def OffersFor (t : Tables) (s : UInt32) (n : Str) : Act → Prop
  | .register client entry => entry.service_id = s →
      entry.service_type = LOCAL_SERVICE_TYPE_METHOD ∧ t.m_clients_by_name.lookup n = some client
  | .unregister client entry => entry.service_id = s → t.m_clients_by_name.lookup n = some client
  | .listen _ _ entry => entry.service_id = s → entry.service_type = LOCAL_SERVICE_TYPE_METHOD
  | _ => True

section OneProvider

variable {t : Tables} {s : UInt32} {n : Str}

variable {act : Act}

theorem method_perform (hwf : t.WellFormed) (h : t.OneProvider s n) (hoffers : t.OffersFor s n act)
    {item : LocalServiceItem} (hitem : (t.perform act).service s = some item) :
    item.service_type = LOCAL_SERVICE_TYPE_METHOD := by
  cases origin_perform hwf hitem with
  | kept hold | reset hold | stamped _ hold =>
    have htype := h.method hold
    exact htype
  | registered hs => exact (hoffers hs).1
  | @listened _ _ entry hs =>
    change (t.listenedItem entry).service_type = LOCAL_SERVICE_TYPE_METHOD
    unfold listenedItem
    cases hold : t.service entry.service_id with
    | none => exact hoffers hs
    | some old => exact h.method (hs ▸ hold)

theorem OneProvider.undisputed (h : t.OneProvider s n) {client : ClientPtr}
    (hclient : t.m_clients_by_name.lookup n = some client) : t.Undisputed client s := by
  intro c i hprovides
  exact Option.some.inj ((h.provided hprovides).symm.trans hclient)

theorem OneProvider.perform (h : t.OneProvider s n) (hwf : t.WellFormed) (hoffers : t.OffersFor s n act) :
    (t.perform act).OneProvider s n where
  method := method_perform hwf h hoffers
  owned := by
    apply h.owned.perform hwf
    cases act with
    | register client entry => exact fun hs => h.undisputed (hoffers hs).2
    | unregister client entry => exact fun hs => h.undisputed (hoffers hs)
    | _ => trivial
  provided := by
    intro c i hprovides
    by_cases hact : act.offered = some s
    · cases act with
      | register client entry =>
        obtain rfl : entry.service_id = s := Option.some.inj hact
        have hprovider := (provides_registerTables hwf client entry c _ i).mp hprovides
        rw [if_pos rfl] at hprovider
        have hnames : (t.perform (.register client entry)).m_clients_by_name = t.m_clients_by_name :=
          (SameClients.registerTables t client entry).names
        rw [hnames, hprovider.1]
        exact (hoffers rfl).2
      | unregister client entry =>
        obtain rfl : entry.service_id = s := Option.some.inj hact
        exact absurd rfl ((provides_unregisterTables client entry c _ i).mp hprovides).1
      | _ => cases hact
    · have hold := ((mirror_frame hwf hact).2 c i).mp hprovides
      exact (hwf.keeps_client (h.provided hold) act).1

end OneProvider

end Tables

namespace Event

variable {r : LocalRegistry}

/-- Messages about the service carry the type of a method, and those that register
or withdraw it name one and the same client. -/
def AboutOneProvider (s : UInt32) (n : Str) (label : Env × Event) : Prop :=
  match label.2 with
  | .message _ (.register_service msg) => ∀ entry ∈ msg.produce_services, entry.service_id = s →
      entry.service_type = LOCAL_SERVICE_TYPE_METHOD ∧ ∀ item ∈ msg.provider_client, item.client_name = n
  | .message _ (.listen_service msg) => ∀ entry ∈ msg.listen_services, entry.service_id = s →
      entry.service_type = LOCAL_SERVICE_TYPE_METHOD
  | _ => True

instance (s : UInt32) (n : Str) : ∀ label, Decidable (AboutOneProvider s n label)
  | (_, .message _ (.register_service msg)) => inferInstanceAs (Decidable (∀ entry ∈ msg.produce_services, _))
  | (_, .message _ (.listen_service msg)) => inferInstanceAs (Decidable (∀ entry ∈ msg.listen_services, _))
  | (_, .message _ (.register_client ..)) | (_, .message _ (.get_client ..)) | (_, .message _ (.get_service ..))
  | (_, .message _ (.service_set_status _)) | (_, .message _ (.ctrl_get_clients _))
  | (_, .message _ (.ctrl_get_services _)) | (_, .connect _) | (_, .close _) => .isTrue trivial

theorem named_eq_some {item : Option StLocalClientItem} {client : ClientPtr} (h : named r item = some client) :
    ∃ named ∈ item, r.m_clients_by_name.lookup named.client_name = some client := by
  obtain ⟨named, hitem, hlookup⟩ := Option.bind_eq_some_iff.mp h
  exact ⟨named, hitem, hlookup⟩

theorem MessageAct.offersFor {s : UInt32} {n : Str} {env : Env} {channel : SocketChannel} {request : Request}
    {act : Act} (hact : MessageAct r request act) (h : AboutOneProvider s n (env, .message channel request))
    {t : Tables} (hsame : Tables.SameClients r.toTables t) : t.OffersFor s n act := by
  cases hact with
  | register hreg hclient hentry =>
    intro hs
    obtain ⟨htype, hname⟩ := h _ hentry hs
    obtain ⟨item, hitem, hlookup⟩ := named_eq_some hclient
    rw [hname item hitem, ← hsame.names] at hlookup
    exact ⟨htype, hlookup⟩
  | unregister hreg hclient hentry =>
    intro hs
    obtain ⟨item, hitem, hlookup⟩ := named_eq_some hclient
    rw [(h _ hentry hs).2 item hitem, ← hsame.names] at hlookup
    exact hlookup
  | listen hclient hentry => exact h _ hentry
  | setStatus | answer => trivial

end Event

namespace LocalRegistry

variable {r : LocalRegistry}

theorem offersFor_acts (hwf : r.WellFormed) {s : UInt32} {n : Str} {env : Env} {event : Event}
    (h : AboutOneProvider s n (env, event)) :
    LoopMeets Tables.perform (fun t act => t.OffersFor s n act) r.toTables (event.acts env r) := by
  cases event with
  | message channel request =>
    refine LoopMeets.of_invariant (Midway r) ?_ ?_ (.start hwf)
    · exact fun t act hmem hmid => (messageAct_of_mem hmem).offersFor h hmid.same
    · exact fun t act hmem hmid => hmid.perform hwf (messageAct_of_mem hmem)
  | connect channel | close channel_id =>
    apply acts_meet
    intro t act hact
    cases hact <;> trivial

theorem step_oneProvider {r' : LocalRegistry} {s : UInt32} {n : Str} {label : Env × Event}
    (hwf : r.WellFormed) (hone : r.OneProvider s n) (hlabel : AboutOneProvider s n label)
    (h : r.step label = some r') : r'.OneProvider s n := by
  obtain ⟨env, event⟩ := label
  exact step_invariant_of_meets (fun t => t.OneProvider s n)
    (fun t act hwf _ hone hoffers => hone.perform hwf hoffers) hwf hone (offersFor_acts hwf hlabel) h

theorem init_oneProvider (s : UInt32) (n : Str) : init.OneProvider s n where
  method h := by simp [init, Tables.service] at h
  owned := fun c i => init_owned c s i
  provided h := by
    obtain ⟨hlookup, _⟩ := h
    simp [init] at hlookup

theorem daemonRun_oneProvider {labels : List (Env × Event)} {s : UInt32} {n : Str}
    (habout : ∀ label ∈ labels, AboutOneProvider s n label) (h : daemonRun labels = some r) :
    r.OneProvider s n := by
  refine (run_invariant_of_meets (fun next : LocalRegistry => next.WellFormed ∧ next.OneProvider s n) ?_
    ⟨Tables.init_wellFormed, init_oneProvider s n⟩ (Meets.of_forall habout init) h).2
  rintro state label next ⟨hwf, hone⟩ hlabel hstep
  exact ⟨step_wellFormed hwf hstep, step_oneProvider hwf hone hlabel hstep⟩

end LocalRegistry

end hub.local_registry

import Hub.Lib.FixedArray
import Hub.LocalRegistry.Crowd

namespace hub.local_registry

open UnorderedMap FixedArray Payload

namespace Tables

variable (env : Env) (t : Tables)

/-- The entry of a client listing with its array. The loop over the produced services stops
once it has filled the array. -/
def clientInfo_bounded (c : ClientPtr) : Option StLocalClientInfo :=
  let produce_services : FixedArray StLocalServiceItem LOCAL_REGISTRY_CLIENT_PROVIDE_SERVICES_ONCE_COUNT_MAX := .empty
  (produce_services.pushUntilFull ((env.order.visit (t.client c).client_produce_services).map fun service =>
    { service_id := service.1
      service_type := (t.item service.2).service_type
      service_status := (t.item service.2).service_status })).map fun produce_services =>
    { client := t.clientItem c, produce_services := produce_services.items }

def serviceInfo_bounded (i : ItemPtr) : Option StLocalServiceInfo :=
  let listener_clients : FixedArray StLocalClientItem LOCAL_REGISTRY_CLIENT_ONCE_COUNT_MAX := .empty
  (listener_clients.pushUntilFull ((env.order.visit (t.item i).service_listeners).map
    fun listener => t.clientItem listener.2)).map fun listener_clients =>
    { service := t.serviceItem i
      provider_client := (t.item i).service_provider.map t.clientItem
      listener_clients := listener_clients.items }

theorem clientInfo_bounded_eq (c : ClientPtr) :
    t.clientInfo_bounded env c = some (t.clientInfo env c) := by
  rw [clientInfo, List.map_take]
  exact map_pushUntilFull_empty (fun produce_services => StLocalClientInfo.mk (t.clientItem c) produce_services)
    _ (by decide)

theorem serviceInfo_bounded_eq (i : ItemPtr) :
    t.serviceInfo_bounded env i = some (t.serviceInfo env i) := by
  rw [serviceInfo, List.map_take]
  exact map_pushUntilFull_empty (fun listener_clients => StLocalServiceInfo.mk (t.serviceItem i)
    ((t.item i).service_provider.map t.clientItem) listener_clients) _ (by decide)

theorem length_listener_clients_le (i : ItemPtr) :
    (t.serviceInfo env i).listener_clients.length ≤ LOCAL_REGISTRY_CLIENT_ONCE_COUNT_MAX := by
  rw [serviceInfo, List.length_map, List.length_take]
  exact Nat.min_le_left ..

end Tables

namespace LocalRegistry

section Bounded

variable {ι α : Type}

def page_one (send : LocalRegistry → Payload → LocalRegistry) (each_count : Nat) (info : ι → Option α)
    (full : α → Bool) (resp : List α → UInt32 → Payload) (state : LocalRegistry × FixedArray α each_count × UInt32)
    (input : ι) : Option (LocalRegistry × FixedArray α each_count × UInt32) :=
  (info input).bind fun entry => (state.2.1.push entry).map fun page =>
    if full entry ∨ each_count ≤ page.items.length then
      (send state.1 (resp page.items (state.2.2 + 1)), .empty, state.2.2 + 1)
    else (state.1, page, state.2.2)

/-- The paging loop with the arrays of its pages. There is no result when a write lands
outside one of them. -/
def send_pages_bounded (env : Env) (r : LocalRegistry) (client_channel : SocketChannel)
    (recv_msg_header : StLocalMsgHeader) (service_id : UInt32) (each_count : Nat) (info : ι → Option α)
    (full : α → Bool) (resp : List α → UInt32 → Payload) (inputs : List ι) : Option LocalRegistry :=
  let send (r : LocalRegistry) (msg : Payload) : LocalRegistry :=
    (send_msg_to_client env r (some client_channel) service_id recv_msg_header.msg_seqid
      (recv_msg_header.msg_type + 1) msg).2
  (run (page_one send each_count info full resp) (r, .empty, 0) inputs).map fun state =>
    let r := if state.2.1.items.length ≠ 0 then send state.1 (resp state.2.1.items (state.2.2 + 1)) else state.1
    send r (resp [] 0)

end Bounded

def ctr_get_clients_bounded (env : Env) (r : LocalRegistry) (recv_msg_header : StLocalMsgHeader)
    (client_channel : SocketChannel) : Option (Int × LocalRegistry) :=
  (send_pages_bounded env r client_channel recv_msg_header LOCAL_REGISTRY_SERVICE_ID_METHOD_CTRL_GET_CLIENTS 1
    (r.clientInfo_bounded env)
    (fun info => LOCAL_REGISTRY_CLIENT_PROVIDE_SERVICES_ONCE_COUNT_MAX ≤ info.produce_services.length)
    (fun clients more_flag => .ctrl_get_clients { clients := clients, more_flag := more_flag })
    ((env.order.visit r.m_clients_by_name).map (·.2))).map fun r => (0, r)

def ctr_get_services_bounded (env : Env) (r : LocalRegistry) (recv_msg_header : StLocalMsgHeader)
    (client_channel : SocketChannel) : Option (Int × LocalRegistry) :=
  (send_pages_bounded env r client_channel recv_msg_header LOCAL_REGISTRY_SERVICE_ID_METHOD_CTRL_GET_SERVICES 1
    (r.serviceInfo_bounded env)
    (fun info => LOCAL_REGISTRY_CLIENT_ONCE_COUNT_MAX ≤ info.listener_clients.length)
    (fun services more_flag => .ctrl_get_services { services := services, more_flag := more_flag })
    ((env.order.visit r.m_services).map (·.2))).map fun r => (0, r)

section Refines

variable {ι α : Type} {each_count : Nat}

theorem run_page_one (send : LocalRegistry → Payload → LocalRegistry) (full : α → Bool)
    (resp : List α → UInt32 → Payload) {info : ι → Option α} {entry : ι → α}
    (hinfo : ∀ input, info input = some (entry input)) (hcount : 0 < each_count) (inputs : List ι) (r : LocalRegistry)
    (page : FixedArray α each_count) (hroom : page.items.length < each_count) (more_flag : UInt32) :
    (run (page_one send each_count info full resp) (r, page, more_flag) inputs).map (fun state =>
      send (if state.2.1.items.length ≠ 0 then send state.1 (resp state.2.1.items (state.2.2 + 1)) else state.1)
        (resp [] 0)) =
      some ((pages each_count full resp page.items (inputs.map entry) more_flag).foldl send r) := by
  induction inputs generalizing r page more_flag with
  | nil =>
    rw [run_nil, Option.map_some, List.map_nil, pages]
    split <;> rfl
  | cons input inputs ih =>
    obtain ⟨next, hnext⟩ : ∃ next, page.push (entry input) = some next := by simp [push, hroom]
    have hitems := push_eq_some_iff.mp hnext
    rw [List.map_cons, pages, ← hitems]
    simp only [run, page_one, hinfo, Option.bind_some, hnext, Option.map_some]
    by_cases hflush : full (entry input) = true ∨ each_count ≤ next.items.length
    · rw [if_pos hflush, if_pos hflush]
      exact ih (send r (resp next.items (more_flag + 1))) .empty hcount (more_flag + 1)
    · rw [if_neg hflush, if_neg hflush]
      exact ih r next (Nat.lt_of_not_le fun hle => hflush (.inr hle)) more_flag

theorem send_pages_bounded_eq (env : Env) (r : LocalRegistry) (channel : SocketChannel)
    (recv_msg_header : StLocalMsgHeader) (service_id : UInt32) (full : α → Bool) (resp : List α → UInt32 → Payload)
    {info : ι → Option α} {entry : ι → α} (hinfo : ∀ input, info input = some (entry input)) (hcount : 0 < each_count)
    (inputs : List ι) :
    r.send_pages_bounded env channel recv_msg_header service_id each_count info full resp inputs =
      some (r.send_pages env channel recv_msg_header service_id each_count full resp (inputs.map entry)) := by
  rw [send_pages_eq, Act.listing, List.foldl_map]
  exact run_page_one _ full resp hinfo hcount inputs r .empty hcount 0

end Refines

end LocalRegistry

def Payload.clientsPage : Payload → Option (List StLocalClientInfo × UInt32)
  | .ctrl_get_clients resp => some (resp.clients, resp.more_flag)
  | _ => none

def Payload.servicesPage : Payload → Option (List StLocalServiceInfo × UInt32)
  | .ctrl_get_services resp => some (resp.services, resp.more_flag)
  | _ => none

def pagesTo {α : Type} (page : Payload → Option (List α × UInt32)) (channel_id : UInt32) (frames : List Sent) :
    List (List α × UInt32) :=
  frames.filterMap fun frame => if frame.channel_id = channel_id then page frame.payload else none

/-- The pages hold these entries in order. They are numbered 1, 2, 3, ..., none is empty or
holds more than `each_count` entries, and one empty page with the number 0 follows. -/
def IsListing {α : Type} (each_count : Nat) (pages : List (List α × UInt32)) (entries : List α) : Prop :=
  ∃ filled, pages = filled ++ [([], 0)] ∧ filled.map (·.2.toNat) = List.range' 1 filled.length ∧
    filled.flatMap (·.1) = entries ∧ ∀ page ∈ filled, page.1 ≠ [] ∧ page.1.length ≤ each_count

def ListsAll {κ α : Type} (Shows : α → κ → Prop) (keys : List κ) (entries : List α) : Prop :=
  ∃ order : List κ, order.Perm keys ∧ List.Forall₂ Shows entries order

theorem ListsAll.exists_entry {κ α : Type} {Shows : α → κ → Prop} {keys : List κ} {entries : List α}
    (h : ListsAll Shows keys entries) {key : κ} (hkey : key ∈ keys) : ∃ entry ∈ entries, Shows entry key := by
  obtain ⟨order, horder, hall⟩ := h
  have hmem : key ∈ order := horder.mem_iff.mpr hkey
  clear horder
  induction hall with
  | nil => cases hmem
  | cons hshows hrest ih =>
    rcases List.mem_cons.mp hmem with rfl | hmem
    · exact ⟨_, List.mem_cons_self, hshows⟩
    · obtain ⟨entry, hentry, hshow⟩ := ih hmem
      exact ⟨entry, .tail _ hentry, hshow⟩

def flagsFrom (more_flag : UInt32) : Nat → List UInt32
  | 0 => []
  | count + 1 => (more_flag + 1) :: flagsFrom (more_flag + 1) count

theorem flagsFrom_toNat_iff (more_flag : UInt32) (count : Nat) :
    (flagsFrom more_flag count).map UInt32.toNat = List.range' (more_flag.toNat + 1) count ↔
      more_flag.toNat + count < UInt32.size := by
  induction count generalizing more_flag with
  | zero => simp [flagsFrom, more_flag.toNat_lt_size]
  | succ count ih =>
    have hadd : (more_flag + 1).toNat = (more_flag.toNat + 1) % UInt32.size := UInt32.toNat_add more_flag 1
    rw [flagsFrom, List.map_cons, List.range'_succ, List.cons.injEq]
    constructor
    · rintro ⟨hfirst, hrest⟩
      rw [← hfirst, ih, hfirst] at hrest
      omega
    · intro hlt
      have hfirst : (more_flag + 1).toNat = more_flag.toNat + 1 := by
        rw [hadd]
        exact Nat.mod_eq_of_lt (by omega)
      refine ⟨hfirst, ?_⟩
      rw [← hfirst, ih, hfirst]
      omega

section Pages

variable {α : Type} {each_count : Nat}

theorem pages_eq (full : α → Bool) (resp : List α → UInt32 → Payload) (entries page : List α)
    (hroom : page.length < each_count) (more_flag : UInt32) :
    ∃ filled : List (List α × UInt32),
      pages each_count full resp page entries more_flag = (filled ++ [([], 0)]).map
        (fun page : List α × UInt32 => resp page.1 page.2) ∧
      filled.map (·.2) = flagsFrom more_flag filled.length ∧ filled.flatMap (·.1) = page ++ entries ∧
      ∀ page ∈ filled, page.1 ≠ [] ∧ page.1.length ≤ each_count := by
  induction entries generalizing page more_flag with
  | nil =>
    rw [pages]
    by_cases hpage : page.length ≠ 0
    · refine ⟨[(page, more_flag + 1)], by simp [hpage], rfl, by simp, ?_⟩
      simp only [List.mem_singleton, forall_eq]
      exact ⟨List.ne_nil_of_length_pos (Nat.pos_of_ne_zero hpage), Nat.le_of_lt hroom⟩
    · have hnil : page = [] := by simpa using hpage
      exact ⟨[], by simp [hnil], rfl, by simp [hnil], by simp⟩
  | cons entry entries ih =>
    rw [pages]
    split
    · obtain ⟨filled, hpages, hflags, hentries, hfilled⟩ := ih [] (Nat.zero_lt_of_lt hroom) (more_flag + 1)
      refine ⟨(page ++ [entry], more_flag + 1) :: filled, ?_, ?_, ?_, ?_⟩
      · rw [hpages]
        rfl
      · rw [List.map_cons, hflags]
        rfl
      · rw [List.flatMap_cons, hentries]
        simp
      · rw [List.forall_mem_cons]
        refine ⟨⟨by simp, ?_⟩, hfilled⟩
        rw [List.length_append, List.length_singleton]
        exact hroom
    · rename_i hflush
      obtain ⟨filled, hpages, hflags, hentries, hfilled⟩ := ih (page ++ [entry])
        (Nat.lt_of_not_le fun hle => hflush (.inr hle)) more_flag
      exact ⟨filled, hpages, hflags, by rw [hentries]; simp, hfilled⟩

theorem isListing_iff {filled : List (List α × UInt32)} {paged entries : List α}
    (hflags : filled.map (·.2) = flagsFrom 0 filled.length) (hpaged : filled.flatMap (·.1) = paged)
    (hfilled : ∀ page ∈ filled, page.1 ≠ [] ∧ page.1.length ≤ 1) :
    IsListing 1 (filled ++ [([], 0)]) entries ↔ entries = paged ∧ paged.length < UInt32.size := by
  have hone : ∀ page ∈ filled, page.1.length = 1 := by
    intro page hpage
    have hpos := List.length_pos_of_ne_nil (hfilled page hpage).1
    have hle := (hfilled page hpage).2
    omega
  have hlength : paged.length = filled.length := by
    rw [← hpaged, List.length_flatMap, List.map_congr_left hone, List.map_const', List.sum_replicate_nat, Nat.mul_one]
  have hnumbers : filled.map (·.2.toNat) = List.range' 1 filled.length ↔ paged.length < UInt32.size := by
    have hmap : filled.map (·.2.toNat) = (flagsFrom 0 filled.length).map UInt32.toNat := by
      rw [← hflags, List.map_map]
      rfl
    have hiff := flagsFrom_toNat_iff 0 filled.length
    rw [hmap, hlength]
    simpa using hiff
  constructor
  · rintro ⟨other, hpages, hother, rfl, -⟩
    obtain rfl := List.append_cancel_right hpages
    exact ⟨hpaged, hnumbers.mp hother⟩
  · rintro ⟨rfl, hlt⟩
    exact ⟨filled, rfl, hnumbers.mpr hlt, hpaged, hfilled⟩

end Pages

namespace LocalRegistry

variable {env : Env}

theorem foldl_answer_sent (henv : env.transport.Reliable) (r : LocalRegistry) (channel : SocketChannel)
    (recv_msg_header : StLocalMsgHeader) (service_id : UInt32) (payloads : List Payload) :
    ∃ frames, ((payloads.map (Act.answer channel recv_msg_header service_id)).foldl (perform env) r).sent =
        r.sent ++ frames ∧
      frames.map Sent.payload = payloads ∧ ∀ frame ∈ frames, frame.channel_id = channel.id := by
  induction payloads generalizing r with
  | nil => exact ⟨[], by simp, rfl, by simp⟩
  | cons payload payloads ih =>
    obtain ⟨msg_len, hsend⟩ := send_msg_to_client_reliable henv r channel service_id recv_msg_header.msg_seqid
      (recv_msg_header.msg_type + 1) payload
    obtain ⟨frames, hsent, hpayloads, hchannel⟩ :=
      ih (r.perform env (.answer channel recv_msg_header service_id payload))
    have hfirst : (r.perform env (.answer channel recv_msg_header service_id payload)).sent = _ :=
      congrArg LocalRegistry.sent hsend
    rw [List.map_cons, List.foldl_cons, hsent, hfirst, List.append_assoc]
    refine ⟨_, rfl, ?_, ?_⟩
    · rw [List.singleton_append, List.map_cons, hpayloads]
    · rw [List.singleton_append, List.forall_mem_cons]
      exact ⟨rfl, hchannel⟩

theorem send_pages_sent {α : Type} (henv : env.transport.Reliable) (r : LocalRegistry) (channel : SocketChannel)
    (recv_msg_header : StLocalMsgHeader) (service_id : UInt32) {each_count : Nat} (hcount : 0 < each_count)
    (full : α → Bool) {page : Payload → Option (List α × UInt32)} {resp : List α → UInt32 → Payload}
    (hpage : ∀ entries more_flag, page (resp entries more_flag) = some (entries, more_flag)) (entries : List α) :
    ∃ frames filled, (r.send_pages env channel recv_msg_header service_id each_count full resp entries).sent =
        r.sent ++ frames ∧
      pagesTo page channel.id frames = filled ++ [([], 0)] ∧ filled.map (·.2) = flagsFrom 0 filled.length ∧
      filled.flatMap (·.1) = entries ∧ ∀ page ∈ filled, page.1 ≠ [] ∧ page.1.length ≤ each_count := by
  obtain ⟨filled, hpages, hfilled⟩ := pages_eq full resp entries [] hcount 0
  obtain ⟨frames, hsent, hpayloads, hchannel⟩ := foldl_answer_sent henv r channel recv_msg_header service_id
    (pages each_count full resp [] entries 0)
  rw [hpages] at hpayloads
  refine ⟨frames, filled, ?_, ?_, hfilled⟩
  · rw [send_pages_eq]
    exact hsent
  · have hkeep : pagesTo page channel.id frames = frames.filterMap fun frame => page frame.payload :=
      List.filterMap_congr fun frame hframe => if_pos (hchannel frame hframe)
    have hmap : (frames.filterMap fun frame => page frame.payload) = (frames.map Sent.payload).filterMap page :=
      (List.filterMap_map ..).symm
    rw [hkeep, hmap, hpayloads, List.filterMap_map]
    have hsome : (page ∘ fun p : List α × UInt32 => resp p.1 p.2) = some := funext fun p => hpage p.1 p.2
    rw [hsome, List.filterMap_some]

theorem send_pages_complete_iff {K κ α : Type} [DecidableEq K] (henv : env.transport.Reliable) (r : LocalRegistry)
    (channel : SocketChannel) (recv_msg_header : StLocalMsgHeader) (service_id : UInt32) (full : α → Bool)
    (page : Payload → Option (List α × UInt32)) (resp : List α → UInt32 → Payload)
    (hpage : ∀ entries more_flag, page (resp entries more_flag) = some (entries, more_flag))
    (m : UnorderedMap K κ) (info : κ → α) (Shows : α → κ → Prop) (size : κ → Nat) (inner : α → Nat) (limit : Nat)
    (hinner : ∀ value, inner (info value) ≤ limit)
    (hsize : ∀ entry value, Shows entry value → inner entry = size value)
    (hshows : ∀ value, size value ≤ limit → Shows (info value) value) :
    (∃ frames entries, (r.send_pages env channel recv_msg_header service_id 1 full resp
        ((env.order.visit m).map fun pair => info pair.2)).sent = r.sent ++ frames ∧
      IsListing 1 (pagesTo page channel.id frames) entries ∧ ListsAll Shows (m.entries.map (·.2)) entries ∧
      ∀ entry ∈ entries, inner entry ≤ limit) ↔
    (∀ key value, m.lookup key = some value → size value ≤ limit) ∧ m.keys.length < UInt32.size := by
  let listed := (env.order.visit m).map fun pair => info pair.2
  obtain ⟨frames, filled, hsent, hpages, hflags, hpaged, hfilled⟩ := send_pages_sent henv r channel recv_msg_header
    service_id Nat.one_pos full hpage listed
  have hlisting : ∀ entries, IsListing 1 (pagesTo page channel.id frames) entries ↔
      entries = listed ∧ m.keys.length < UInt32.size := by
    intro entries
    rw [hpages, isListing_iff hflags hpaged hfilled, List.length_map, env.order.length_visit]
  rw [hsent]
  constructor
  · rintro ⟨frames', entries, hframes, hpages', hall, hfits⟩
    obtain rfl := List.append_cancel_left hframes
    refine ⟨fun key value hlookup => ?_, ((hlisting entries).mp hpages').2⟩
    obtain ⟨entry, hentry, hshow⟩ := hall.exists_entry (mem_values.mpr ⟨key, hlookup⟩)
    rw [← hsize entry value hshow]
    exact hfits entry hentry
  · rintro ⟨hfits, hlt⟩
    refine ⟨frames, listed, rfl, (hlisting listed).mpr ⟨rfl, hlt⟩,
      ⟨(env.order.visit m).map (·.2), (env.order.perm m).map _, ?_⟩, ?_⟩
    · rw [List.forall₂_map_left_iff, List.forall₂_map_right_iff, List.forall₂_same]
      exact fun pair hpair => hshows pair.2 (hfits pair.1 pair.2 (env.order.mem_visit.mp hpair))
    · intro entry hentry
      obtain ⟨pair, -, rfl⟩ := List.mem_map.mp hentry
      exact hinner pair.2

def ShowsClient (r : LocalRegistry) (info : StLocalClientInfo) (c : ClientPtr) : Prop :=
  info.client = r.clientItem c ∧
  info.produce_services.Perm ((r.client c).client_produce_services.entries.map fun service =>
    { service_id := service.1
      service_type := (r.item service.2).service_type
      service_status := (r.item service.2).service_status })

def ShowsService (r : LocalRegistry) (info : StLocalServiceInfo) (i : ItemPtr) : Prop :=
  info.service = r.serviceItem i ∧ info.provider_client = (r.item i).service_provider.map r.clientItem ∧
  info.listener_clients.Perm ((r.item i).service_listeners.entries.map fun listener => r.clientItem listener.2)

/-- The pages of `ctr_get_clients` are numbered, within their arrays, and hold every client
once with all services that it produces. -/
def ListsClients (env : Env) (r : LocalRegistry) (recv_msg_header : StLocalMsgHeader) (channel : SocketChannel) :
    Prop :=
  ∃ r', r.ctr_get_clients_bounded env recv_msg_header channel = some (0, r') ∧
    ∃ frames entries, r'.sent = r.sent ++ frames ∧
    IsListing 1 (pagesTo Payload.clientsPage channel.id frames) entries ∧
    ListsAll r.ShowsClient (r.m_clients_by_name.entries.map (·.2)) entries ∧
    ∀ entry ∈ entries, entry.produce_services.length ≤ LOCAL_REGISTRY_CLIENT_PROVIDE_SERVICES_ONCE_COUNT_MAX

/-- The pages of `ctr_get_services` are numbered, within their arrays, and hold every service
once with its provider and all its listeners. -/
def ListsServices (env : Env) (r : LocalRegistry) (recv_msg_header : StLocalMsgHeader) (channel : SocketChannel) :
    Prop :=
  ∃ r', r.ctr_get_services_bounded env recv_msg_header channel = some (0, r') ∧
    ∃ frames entries, r'.sent = r.sent ++ frames ∧
    IsListing 1 (pagesTo Payload.servicesPage channel.id frames) entries ∧
    ListsAll r.ShowsService (r.m_services.entries.map (·.2)) entries ∧
    ∀ entry ∈ entries, entry.listener_clients.length ≤ LOCAL_REGISTRY_CLIENT_ONCE_COUNT_MAX

section Complete

variable (r : LocalRegistry) (recv_msg_header : StLocalMsgHeader) (channel : SocketChannel)

theorem ctr_get_clients_bounded_eq (env : Env) :
    r.ctr_get_clients_bounded env recv_msg_header channel = some (r.ctr_get_clients env recv_msg_header channel) := by
  rw [ctr_get_clients_bounded, send_pages_bounded_eq _ _ _ _ _ _ _ (r.clientInfo_bounded_eq env) Nat.one_pos,
    Option.map_some, List.map_map]
  rfl

theorem ctr_get_services_bounded_eq (env : Env) :
    r.ctr_get_services_bounded env recv_msg_header channel =
      some (r.ctr_get_services env recv_msg_header channel) := by
  rw [ctr_get_services_bounded, send_pages_bounded_eq _ _ _ _ _ _ _ (r.serviceInfo_bounded_eq env) Nat.one_pos,
    Option.map_some, List.map_map]
  rfl

theorem listsClients_iff (henv : env.transport.Reliable) :
    r.ListsClients env recv_msg_header channel ↔
      (∀ name c, r.m_clients_by_name.lookup name = some c → (r.client c).client_produce_services.keys.length ≤
        LOCAL_REGISTRY_CLIENT_PROVIDE_SERVICES_ONCE_COUNT_MAX) ∧
      r.m_clients_by_name.keys.length < UInt32.size := by
  simp only [ListsClients, ctr_get_clients_bounded_eq, Option.some.injEq, ctr_get_clients, Prod.mk.injEq, true_and,
    exists_eq_left']
  apply send_pages_complete_iff henv r channel recv_msg_header _ _ clientsPage _ (fun _ _ => rfl)
    r.m_clients_by_name (r.clientInfo env) r.ShowsClient (fun c => (r.client c).client_produce_services.keys.length)
    (fun info => info.produce_services.length)
  · intro c
    rw [Tables.clientInfo, List.length_map, List.length_take]
    exact Nat.min_le_left ..
  · rintro info c ⟨-, hproduce⟩
    rw [hproduce.length_eq, List.length_map, length_entries]
  · intro c hfits
    exact ⟨rfl, (env.order.take_visit_perm hfits).map _⟩

theorem listsServices_iff (henv : env.transport.Reliable) :
    r.ListsServices env recv_msg_header channel ↔
      (∀ s i, r.m_services.lookup s = some i → (r.item i).service_listeners.keys.length ≤
        LOCAL_REGISTRY_CLIENT_ONCE_COUNT_MAX) ∧
      r.m_services.keys.length < UInt32.size := by
  simp only [ListsServices, ctr_get_services_bounded_eq, Option.some.injEq, ctr_get_services, Prod.mk.injEq, true_and,
    exists_eq_left']
  apply send_pages_complete_iff henv r channel recv_msg_header _ _ servicesPage _ (fun _ _ => rfl)
    r.m_services (r.serviceInfo env) r.ShowsService (fun i => (r.item i).service_listeners.keys.length)
    (fun info => info.listener_clients.length)
  · exact r.length_listener_clients_le env
  · rintro info i ⟨-, -, hlisteners⟩
    rw [hlisteners.length_eq, List.length_map, length_entries]
  · intro i hfits
    exact ⟨rfl, rfl, (env.order.take_visit_perm hfits).map _⟩

/-- Both listings of a state are complete exactly when every client produces and every
service is listened to by at most as many as an entry holds, and there are fewer of each
than numbers for the pages. -/
theorem control_listing_complete_iff (henv : env.transport.Reliable) :
    r.ListsClients env recv_msg_header channel ∧ r.ListsServices env recv_msg_header channel ↔
      ((∀ name c, r.m_clients_by_name.lookup name = some c → (r.client c).client_produce_services.keys.length ≤
          LOCAL_REGISTRY_CLIENT_PROVIDE_SERVICES_ONCE_COUNT_MAX) ∧
        r.m_clients_by_name.keys.length < UInt32.size) ∧
      (∀ s i, r.m_services.lookup s = some i → (r.item i).service_listeners.keys.length ≤
          LOCAL_REGISTRY_CLIENT_ONCE_COUNT_MAX) ∧
        r.m_services.keys.length < UInt32.size := by
  rw [listsClients_iff r recv_msg_header channel henv, listsServices_iff r recv_msg_header channel henv]

theorem ctr_get_services_entries (henv : env.transport.Reliable) :
    ∃ r' frames, r.ctr_get_services_bounded env recv_msg_header channel = some (0, r') ∧ r'.sent = r.sent ++ frames ∧
      ∀ page ∈ pagesTo servicesPage channel.id frames, ∀ entry ∈ page.1,
        entry.listener_clients.length ≤ LOCAL_REGISTRY_CLIENT_ONCE_COUNT_MAX := by
  have hpage : ∀ services more_flag, servicesPage
      (.ctrl_get_services { services := services, more_flag := more_flag }) = some (services, more_flag) :=
    fun _ _ => rfl
  obtain ⟨frames, filled, hsent, hpages, -, hpaged, -⟩ := send_pages_sent henv r channel recv_msg_header
    LOCAL_REGISTRY_SERVICE_ID_METHOD_CTRL_GET_SERVICES Nat.one_pos
    (fun info => LOCAL_REGISTRY_CLIENT_ONCE_COUNT_MAX ≤ info.listener_clients.length) hpage
    ((env.order.visit r.m_services).map fun pair => r.serviceInfo env pair.2)
  refine ⟨_, frames, r.ctr_get_services_bounded_eq recv_msg_header channel env, hsent, ?_⟩
  rw [hpages]
  intro page hmem entry hentry
  have hlisted : entry ∈ (filled ++ [([], 0)]).flatMap fun page : List StLocalServiceInfo × UInt32 => page.1 :=
    List.mem_flatMap.mpr ⟨page, hmem, hentry⟩
  rw [List.flatMap_append, hpaged, List.flatMap_singleton, List.append_nil] at hlisted
  obtain ⟨pair, -, rfl⟩ := List.mem_map.mp hlisted
  exact r.length_listener_clients_le env pair.2

end Complete

def listingRequest : StLocalMsgHeader := ⟨0, 1, 2, LOCAL_REGISTRY_SERVICE_ID_METHOD_CTRL_GET_SERVICES, 0⟩

def ctrlChannel : SocketChannel := ⟨9, LOCAL_REGISTRY_CTRL_SOCKET_FILE⟩

theorem small_listing_complete :
    ∃ r, daemonRun [(Peer.numbered 0).connects, (Peer.numbered 1).connects,
        (Peer.numbered 1).listens true [⟨7, LOCAL_SERVICE_TYPE_METHOD, 0⟩],
        (Peer.numbered 0).registers true [⟨7, LOCAL_SERVICE_TYPE_METHOD, 0⟩]] = some r ∧
      r.m_clients_by_name.keys.length = 2 ∧ r.m_services.keys.length = 1 ∧
      r.ListsClients .plain listingRequest ctrlChannel ∧ r.ListsServices .plain listingRequest ctrlChannel := by
  have hruns : ∃ r, daemonRun [(Peer.numbered 0).connects, (Peer.numbered 1).connects,
        (Peer.numbered 1).listens true [⟨7, LOCAL_SERVICE_TYPE_METHOD, 0⟩],
        (Peer.numbered 0).registers true [⟨7, LOCAL_SERVICE_TYPE_METHOD, 0⟩]] = some r ∧
      r.m_clients_by_name.keys.length = 2 ∧ r.m_services.keys.length = 1 ∧
      (∀ c ∈ r.m_clients_by_name.entries.map (·.2), (r.client c).client_produce_services.keys.length ≤ 1) ∧
      ∀ i ∈ r.m_services.entries.map (·.2), (r.item i).service_listeners.keys.length ≤ 1 :=
    ⟨_, rfl, rfl, rfl, by decide, by decide⟩
  obtain ⟨r, hrun, hclients, hservices, hproduce, hlisteners⟩ := hruns
  refine ⟨r, hrun, hclients, hservices, ?_⟩
  refine (control_listing_complete_iff r listingRequest ctrlChannel Env.plain_reliable).mpr ⟨⟨?_, ?_⟩, ?_, ?_⟩
  · intro name c hlookup
    exact (hproduce c (mem_values.mpr ⟨name, hlookup⟩)).trans (by decide)
  · rw [hclients]
    decide
  · intro s i hlookup
    exact (hlisteners i (mem_values.mpr ⟨s, hlookup⟩)).trans (by decide)
  · rw [hservices]
    decide

/-- With 129 listeners no entry of the service listing shows them all. -/
theorem listing_drops_listeners :
    ∃ labels r r' frames, daemonRun labels = some r ∧ (r.listeners 7).keys.length = 129 ∧
      r.ctr_get_services_bounded .plain listingRequest ctrlChannel = some (0, r') ∧ r'.sent = r.sent ++ frames ∧
      ∀ page ∈ pagesTo Payload.servicesPage ctrlChannel.id frames, ∀ entry ∈ page.1,
        entry.listener_clients.length ≤ 128 := by
  obtain ⟨r, hr⟩ := exists_crowd 7 (n := 129) (by decide)
  obtain ⟨labels, hrun⟩ := hr.reached
  obtain ⟨r', frames, hcall, hsent, hentries⟩ :=
    r.ctr_get_services_entries listingRequest ctrlChannel Env.plain_reliable
  exact ⟨labels, r, r', frames, hrun, hr.listeners_length, hcall, hsent, hentries⟩

end LocalRegistry

end hub.local_registry

import Sfrpg.Lib.Run
import Sfrpg.ServerFrame

/-!
The registry of clients over a whole period: endpoints and ids.

Ids come from a counter that only counts up, so while it has not passed `2 ^ 31` an id is
bound once and for all to the endpoint it was given to. Endpoints are unique because
`addClient` searches before it inserts, and nothing else inserts.
-/

namespace Sfrpg

open Lib Lib.Word Lib.Run

namespace Server

/-- The calls that touch the registry, each one section under the client mutex. -/
inductive RegistryCall
  | addClient (protocol : NetworkProtocol) (ip : IpAddress) (port : PortNumber)
  | removeClient (id : ClientID)
  | removeClientAt (ip : IpAddress) (port : PortNumber)
  | update (dt : Time)
  | disconnectAll

def registryStep (s : Server) : Transport × RegistryCall → Server
  | (_, .addClient protocol ip port) => (s.addClient protocol ip port).1
  | (tr, .removeClient id) => (s.removeClient tr id).1
  | (tr, .removeClientAt ip port) => (s.removeClientAt tr ip port).1
  | (tr, .update dt) => s.update tr dt
  | (tr, .disconnectAll) => s.disconnectAll tr

/-- The invariant of the registry while fewer than `2 ^ 31` clients were added. -/
structure Registered (s : Server) : Prop where
  running : s.running = true
  unique : ∀ i j a b, s.clientMap.lookup i = some a → s.clientMap.lookup j = some b →
    a.clientIP = b.clientIP → a.clientPORT = b.clientPORT → i = j
  below : ∀ (i : ℤ) a, s.clientMap.lookup i = some a → 0 ≤ i ∧ i < s.lastID
  counter : s.lastID = (clientsAdded s.log).length
  issued : ∀ (i : ℤ) ip port, (i, ip, port) ∈ clientsAdded s.log → 0 ≤ i ∧ i < s.lastID
  bound : ∀ i ip port, (i, ip, port) ∈ clientsAdded s.log → ∀ a,
    s.clientMap.lookup i = some a → a.clientIP = ip ∧ a.clientPORT = port

variable {s t : Server}

lemma registered_start : Registered start where
  running := rfl
  unique := by intro i j a b ha; simp [start] at ha
  below := by intro i a ha; simp [start] at ha
  counter := rfl
  issued := by intro i ip port h; simp [start, clientsAdded] at h
  bound := by intro i ip port h; simp [start, clientsAdded] at h

lemma Registered.narrows (h : Registered s) (hn : Narrows s t) : Registered t where
  running := hn.running.trans h.running
  unique := by
    intro i j a b ha hb hip hport
    obtain ⟨a', ha', -, hip', hport'⟩ := hn.entries i a ha
    obtain ⟨b', hb', -, hip'', hport''⟩ := hn.entries j b hb
    refine h.unique i j a' b' ha' hb' ?_ ?_
    · rw [← hip', ← hip'', hip]
    · rw [← hport', ← hport'', hport]
  below := by
    intro i a ha
    obtain ⟨a', ha', -⟩ := hn.entries i a ha
    rw [hn.lastID]
    exact h.below i a' ha'
  counter := by rw [hn.lastID, hn.joined, h.counter]
  issued := by
    intro i ip port hm
    rw [hn.joined] at hm
    rw [hn.lastID]
    exact h.issued i ip port hm
  bound := by
    intro i ip port hm a ha
    rw [hn.joined] at hm
    obtain ⟨a', ha', -, hip, hport⟩ := hn.entries i a ha
    rw [hip, hport]
    exact h.bound i ip port hm a' ha'

/-- A client with the endpoint `(ip, port)` joins at the counter. -/
structure Joins (ip : IpAddress) (port : PortNumber) (s t : Server) : Prop where
  running : t.running = s.running
  entries : ∀ (i : ℤ) a, t.clientMap.lookup i = some a →
    (i = s.lastID ∧ a.clientIP = ip ∧ a.clientPORT = port) ∨ s.clientMap.lookup i = some a
  lastID : t.lastID = s.lastID + 1
  joined : clientsAdded t.log = ((s.lastID : ℤ), ip, port) :: clientsAdded s.log

lemma Registered.addClient_cases (h : Registered s) (protocol : NetworkProtocol)
    (ip : IpAddress) (port : PortNumber) (hlt : s.lastID < 2147483648) :
    s.addClient protocol ip port = (s, Network.NullID) ∨
    (s.findClient ip port = none ∧ (s.addClient protocol ip port).2 = s.lastID ∧
      Joins ip port s (s.addClient protocol ip port).1) := by
  obtain ⟨-, he⟩ | ⟨hnone, hcid, he⟩ := Server.addClient_cases protocol ip port h.running
  · exact .inl he
  · right
    have hid : toInt32 (s.lastID : ℤ) = s.lastID := toInt32_natCast hlt
    have hfresh : (s.lastID : ℤ) ∉ s.clientMap := by
      intro hm
      obtain ⟨a, ha⟩ := Dict.exists_lookup hm
      have := (h.below _ a ha).2
      omega
    rw [hid] at hcid he
    rw [if_neg hfresh] at he
    refine ⟨hnone, hcid, by rw [he], ?_, ?_, by rw [he]; rfl⟩
    · intro i a ha
      rw [he] at ha
      by_cases hi : i = s.lastID
      · subst hi
        rw [Dict.lookup_emplace hfresh] at ha
        cases ha
        exact .inl ⟨rfl, rfl, rfl⟩
      · rw [Dict.lookup_emplace_ne hi] at ha
        exact .inr ha
    · rw [he]
      exact Nat.mod_eq_of_lt (by omega)

lemma Registered.joins (h : Registered s) {ip : IpAddress} {port : PortNumber}
    (hnone : s.findClient ip port = none) (hj : Joins ip port s t) : Registered t := by
  have hother : ∀ i a, s.clientMap.lookup i = some a →
      ¬ (a.clientIP = ip ∧ a.clientPORT = port) := findClient_none.mp hnone
  refine ⟨hj.running.trans h.running, ?_, ?_, ?_, ?_, ?_⟩
  · intro i j a b ha hb hip hport
    rcases hj.entries i a ha with ⟨rfl, haip, haport⟩ | ha'
    · rcases hj.entries j b hb with ⟨rfl, -⟩ | hb'
      · rfl
      · exact absurd ⟨hip.symm.trans haip, hport.symm.trans haport⟩ (hother j b hb')
    · rcases hj.entries j b hb with ⟨rfl, hbip, hbport⟩ | hb'
      · exact absurd ⟨hip.trans hbip, hport.trans hbport⟩ (hother i a ha')
      · exact h.unique i j a b ha' hb' hip hport
  · intro i a ha
    rw [hj.lastID]
    rcases hj.entries i a ha with ⟨rfl, -⟩ | ha'
    · omega
    · have := h.below i a ha'
      omega
  · rw [hj.lastID, hj.joined, List.length_cons, h.counter]
  · intro i ip' port' hm
    rw [hj.lastID]
    rw [hj.joined] at hm
    rcases List.mem_cons.mp hm with heq | hm'
    · cases heq
      omega
    · have := h.issued i ip' port' hm'
      omega
  · intro i ip' port' hm a ha
    rw [hj.joined] at hm
    rcases List.mem_cons.mp hm with heq | hm'
    · cases heq
      rcases hj.entries _ a ha with ⟨-, hip, hport⟩ | ha'
      · exact ⟨hip, hport⟩
      · have := (h.below _ a ha').2
        omega
    · rcases hj.entries i a ha with ⟨rfl, -⟩ | ha'
      · have := (h.issued _ ip' port' hm').2
        omega
      · exact h.bound i ip' port' hm' a ha'

lemma Registered.congr (h : Registered s) (hrun : t.running = s.running)
    (hmap : t.clientMap = s.clientMap) (hid : t.lastID = s.lastID) (hlog : t.log = s.log) :
    Registered t where
  running := hrun.trans h.running
  unique := by rw [hmap]; exact h.unique
  below := by rw [hmap, hid]; exact h.below
  counter := by rw [hid, hlog]; exact h.counter
  issued := by rw [hid, hlog]; exact h.issued
  bound := by rw [hmap, hlog]; exact h.bound

lemma Registered.clear (h : Registered s) : Registered s.clear where
  running := h.running
  unique := by intro i j a b ha; simp [Server.clear] at ha
  below := by intro i a ha; simp [Server.clear] at ha
  counter := h.counter
  issued := h.issued
  bound := by intro i ip port _ a ha; simp [Server.clear] at ha

lemma Registered.disconnectAll (h : Registered s) (tr : Transport) :
    Registered (s.disconnectAll tr) :=
  (h.narrows (broadcast_frame tr disconnectPacket Network.NullID s).narrows).clear

lemma registryStep_added (s : Server) (c : Transport × RegistryCall) :
    clientsAdded s.log <:+ clientsAdded (registryStep s c).log := by
  obtain ⟨tr, c⟩ := c
  cases c with
  | addClient protocol ip port =>
    simp only [registryStep]
    unfold Server.addClient
    split
    · exact List.suffix_refl _
    · cases s.findClient ip port with
      | some i => exact List.suffix_refl _
      | none =>
        dsimp only
        split
        · exact List.suffix_refl _
        · exact List.suffix_cons _ _
  | removeClient id =>
    have h : clientsAdded (registryStep s (tr, .removeClient id)).log = clientsAdded s.log :=
      (removeClient_narrows tr id s).joined
    exact h ▸ List.suffix_refl _
  | removeClientAt ip port =>
    have h : clientsAdded (registryStep s (tr, .removeClientAt ip port)).log
        = clientsAdded s.log := (removeClientAt_narrows tr ip port s).joined
    exact h ▸ List.suffix_refl _
  | update dt =>
    have h : clientsAdded (registryStep s (tr, .update dt)).log = clientsAdded s.log :=
      (update_narrows tr dt s).joined
    exact h ▸ List.suffix_refl _
  | disconnectAll =>
    have h : clientsAdded (registryStep s (tr, .disconnectAll)).log = clientsAdded s.log :=
      (broadcast_frame tr disconnectPacket Network.NullID s).joined
    exact h ▸ List.suffix_refl _

lemma run_added (s : Server) (cs : List (Transport × RegistryCall)) :
    clientsAdded s.log <:+ clientsAdded (run registryStep s cs).log :=
  run_inv_all (I := fun t => clientsAdded s.log <:+ clientsAdded t.log)
    (fun t c h => h.trans (registryStep_added t c)) cs (List.suffix_refl _)

lemma registered_step (h : Registered s) (c : Transport × RegistryCall)
    (hfew : (clientsAdded (registryStep s c).log).length < 2147483648) :
    Registered (registryStep s c) := by
  obtain ⟨tr, c⟩ := c
  cases c with
  | addClient protocol ip port =>
    have hle := (registryStep_added s (tr, .addClient protocol ip port)).length_le
    have hlt : s.lastID < 2147483648 := h.counter ▸ lt_of_le_of_lt hle hfew
    obtain he | ⟨hnone, -, hj⟩ := h.addClient_cases protocol ip port hlt
    · rw [registryStep, he]
      exact h
    · exact h.joins hnone hj
  | removeClient id => exact h.narrows (removeClient_narrows tr id s)
  | removeClientAt ip port => exact h.narrows (removeClientAt_narrows tr ip port s)
  | update dt => exact h.narrows (update_narrows tr dt s)
  | disconnectAll => exact h.disconnectAll tr

lemma registered_run (h : Registered s) (cs : List (Transport × RegistryCall))
    (hfew : (clientsAdded (run registryStep s cs).log).length < 2147483648) :
    Registered (run registryStep s cs) := by
  induction cs generalizing s with
  | nil => exact h
  | cons c cs ih =>
    have hle := (run_added (registryStep s c) cs).length_le
    exact ih (registered_step h c (lt_of_le_of_lt hle hfew)) hfew

lemma Registered.getClientID_eq (h : Registered s) {ip : IpAddress} {port : PortNumber}
    {i : ClientID} {a : ClientInfo} (ha : s.clientMap.lookup i = some a) (hip : a.clientIP = ip)
    (hport : a.clientPORT = port) : s.getClientID ip port = i := by
  have hf : s.findClient ip port = some i := by
    refine Dict.findKey_unique ha (ClientInfo_at_iff.mpr ⟨hip, hport⟩) fun j b hb hp => ?_
    obtain ⟨hip', hport'⟩ := ClientInfo_at_iff.mp hp
    exact h.unique j i b a hb ha (hip'.trans hip.symm) (hport'.trans hport.symm)
  simp [getClientID, h.running, hf]

lemma Registered.getClientID_none (h : Registered s) {ip : IpAddress} {port : PortNumber}
    (hno : ∀ i a, s.clientMap.lookup i = some a → ¬ (a.clientIP = ip ∧ a.clientPORT = port)) :
    s.getClientID ip port = Network.NullID := by
  have hf : s.findClient ip port = none := findClient_none.mpr hno
  simp [getClientID, h.running, hf]

lemma Registered.added (h : Registered s) (protocol : NetworkProtocol) (ip : IpAddress)
    (port : PortNumber) (hlt : s.lastID < 2147483648)
    (hid : (s.addClient protocol ip port).2 ≠ Network.NullID) :
    ((s.addClient protocol ip port).2, ip, port)
      ∈ clientsAdded (s.addClient protocol ip port).1.log := by
  obtain he | ⟨-, hcid, hj⟩ := h.addClient_cases protocol ip port hlt
  · rw [he] at hid
    exact absurd rfl hid
  · rw [hcid, hj.joined]
    exact List.mem_cons_self

lemma added_ever_after (before after : List (Transport × RegistryCall)) (tr : Transport)
    (protocol : NetworkProtocol) (ip : IpAddress) (port : PortNumber)
    (hfew : (clientsAdded (run registryStep start
      (before ++ (tr, .addClient protocol ip port) :: after)).log).length < 2147483648)
    (hid : ((run registryStep start before).addClient protocol ip port).2 ≠ Network.NullID) :
    (((run registryStep start before).addClient protocol ip port).2, ip, port) ∈ clientsAdded
      (run registryStep start (before ++ (tr, .addClient protocol ip port) :: after)).log := by
  rw [run_append] at hfew ⊢
  set u := run registryStep start before with hu
  have h1 : clientsAdded u.log <:+ clientsAdded (u.addClient protocol ip port).1.log :=
    registryStep_added u (tr, .addClient protocol ip port)
  have h2 := run_added (u.addClient protocol ip port).1 after
  have hfu : (clientsAdded u.log).length < 2147483648 :=
    lt_of_le_of_lt (h1.trans h2).length_le hfew
  have hru : Registered u := registered_run registered_start before hfu
  exact h2.subset (hru.added protocol ip port (by rw [hru.counter]; exact hfu) hid)

/-- **Endpoints and ids.** In a period in which fewer than `2 ^ 31` clients are added, no two
clients share an endpoint, every id lies below the counter, `getClientID` answers with the
client of the endpoint, or with `NullID` where there is none, and an id that `addClient`
returned for an endpoint designates nobody at any other endpoint ever after. -/
theorem registry (cs : List (Transport × RegistryCall))
    (hfew : (clientsAdded (run registryStep start cs).log).length < 2147483648) :
    let w := run registryStep start cs
    (∀ i j a b, w.clientMap.lookup i = some a → w.clientMap.lookup j = some b →
      a.clientIP = b.clientIP → a.clientPORT = b.clientPORT → i = j) ∧
    (∀ (i : ℤ) a, w.clientMap.lookup i = some a → i < w.lastID) ∧
    (∀ ip port,
      (∀ i a, w.clientMap.lookup i = some a → a.clientIP = ip → a.clientPORT = port →
        w.getClientID ip port = i) ∧
      ((∀ i a, w.clientMap.lookup i = some a → ¬ (a.clientIP = ip ∧ a.clientPORT = port)) →
        w.getClientID ip port = Network.NullID)) ∧
    (∀ before tr protocol ip port after,
      cs = before ++ (tr, .addClient protocol ip port) :: after →
      ∀ id, ((run registryStep start before).addClient protocol ip port).2 = id →
      id ≠ Network.NullID → ∀ a, w.clientMap.lookup id = some a →
      a.clientIP = ip ∧ a.clientPORT = port) := by
  intro w
  have hw : Registered w := registered_run registered_start cs hfew
  refine ⟨hw.unique, fun i a ha => (hw.below i a ha).2, fun ip port => ⟨?_, ?_⟩, ?_⟩
  · intro i a ha hip hport
    exact hw.getClientID_eq ha hip hport
  · intro hno
    exact hw.getClientID_none hno
  · rintro before tr protocol ip port after rfl id rfl hid a ha
    exact hw.bound _ ip port (added_ever_after before after tr protocol ip port hfew hid) a ha

/-- Two clients join, the first leaves, and its endpoint joins again under a new id. -/
theorem registry_rejoin :
    let cs : List (Transport × RegistryCall) :=
      [(fun _ => true, .addClient .UDP 1 10), (fun _ => true, .addClient .TCP 2 20),
        (fun _ => true, .removeClient 0), (fun _ => true, .addClient .UDP 1 10)]
    ∀ a, (run registryStep start cs).clientMap.lookup 2 = some a →
      a.clientIP = 1 ∧ a.clientPORT = 10 := by
  intro cs
  have h := registry cs (by decide)
  exact h.2.2.2 (cs.take 3) (fun _ => true) .UDP 1 10 [] rfl 2 (by decide) (by decide)

end Server

end Sfrpg

import Sfrpg.Room

/-!
What a step of a client comes to: it takes a packet and hears what the handler makes of it, or it
does not and hears nothing.
-/

namespace Sfrpg

open Lib Lib.Run

namespace Process

open ClientMain

variable {p : Process} {r : Process × List Outgoing}

/-- A step that takes no packet. -/
structure Aside (p : Process) (r : Process × List Outgoing) : Prop where
  heard : r.1.heard = p.heard
  connected : r.1.connected = true → p.connected = true
  joining : r.1.joining = true → p.joining = true
  said : ∀ name str, .request name (.say str) ∈ r.2 → p.pending = some (.request (.say str))

lemma aside_disconnect (p : Process) : Aside p p.disconnect := by
  unfold disconnect
  split
  · refine ⟨rfl, fun h => (by cases h), fun h => h, fun name str hm => ?_⟩
    cases List.mem_singleton.mp hm
  · exact ⟨rfl, fun h => h, fun h => h, fun _ _ hm => by cases hm⟩

lemma aside_read {q : Process} (hr : p.read = .ok q) : Aside p (q, []) := by
  unfold read at hr
  split at hr
  · split at hr
    · cases hr
    · cases hr
      exact ⟨rfl, fun h => h, fun h => h, fun _ _ hm => by cases hm⟩
  · cases hr

lemma aside_carryOut (hr : p.carryOut = .ok r) : Aside p r := by
  unfold carryOut at hr
  split at hr
  · cases hr
  · cases hr
    exact ⟨rfl, fun h => h, fun h => h, fun _ _ hm => by cases hm⟩
  · cases hr
    have h := aside_disconnect { p with pending := none }
    exact ⟨h.heard, h.connected, h.joining, fun name str hm => by cases h.said name str hm⟩
  · rename_i req hpending
    cases hr
    refine ⟨rfl, fun h => h, fun h => h, fun name str hm => ?_⟩
    dsimp only at hm
    split at hm
    · cases List.mem_singleton.mp hm
      exact hpending
    · cases hm

lemma aside_session {session : Client.Session} {a : Client.Act} {out : List Outgoing}
    (hs : Client.step p.session a = .ok session)
    (hout : ∀ o ∈ out, o = .disconnect ∨ o = .heartbeat) :
    Aside p ({ p with session := session }, out) := by
  refine ⟨rfl, fun h => ?_, fun h => h, fun name str hm => ?_⟩
  · have hconnected : session.client.connected = true := h
    change p.session.client.connected = true
    cases a with
    | setTime timestamp =>
      rw [Client.step] at hs
      split at hs
      · cases hs
      · cases hs
        exact hconnected
    | catchUp =>
      rw [Client.step] at hs
      split at hs
      · cases hs
        exact hconnected
      · cases hs
    | update dt =>
      cases hs
      by_contra hno
      rw [Bool.not_eq_true] at hno
      have hsame : p.session.client.update dt = p.session.client := by simp [Client.update, hno]
      dsimp only at hconnected
      rw [hsame, hno] at hconnected
      cases hconnected
  · rcases hout _ hm with h | h <;> cases h

lemma aside_update {dt : Time} (hr : p.update dt = .ok r) : Aside p r := by
  unfold update at hr
  cases hs : Client.step p.session (.update dt) with
  | error _ =>
    rw [hs] at hr
    cases hr
  | ok session =>
    rw [hs] at hr
    cases hr
    refine aside_session hs fun o ho => ?_
    split at ho
    · exact .inl (List.mem_singleton.mp ho)
    · cases ho

lemma aside_catchUp (hr : p.catchUp = .ok r) : Aside p r := by
  unfold catchUp at hr
  cases hs : Client.step p.session .catchUp with
  | error _ =>
    rw [hs] at hr
    cases hr
  | ok session =>
    rw [hs] at hr
    cases hr
    exact aside_session hs fun o ho => by cases ho

/-! ### What a client hears -/

/-- The handler has been called for the packet, or not. -/
structure Listens (u : ℤ) (packet : Packet) (p : Process) (r : Process × List Outgoing) : Prop where
  heard : ∀ x ∈ r.1.heard, x ∈ p.heard ∨
    ∃ data, Packet.getInt8 packet.data = some (x.1, data) ∧ x.2 ∈ handlePacket u x.1 (some data)
  joined : (p.connected = true → p.joining = false) → r.1.connected = true → r.1.joining = false
  said : ∀ name req, .request name req ∉ r.2

lemma perform_spec (l_id : ℤ) (acc : Process × List Outgoing) (a : Action) :
    (perform l_id acc a).1.heard = acc.1.heard ++ [(l_id, a)] ∧
      (perform l_id acc a).1.joining = acc.1.joining ∧
      ((perform l_id acc a).1.connected = true → acc.1.connected = true) ∧
      ((∀ name req, .request name req ∉ acc.2) →
        ∀ name req, .request name req ∉ (perform l_id acc a).2) := by
  cases a with
  | print line => exact ⟨rfl, rfl, fun h => h, fun h => h⟩
  | setUserName name => exact ⟨rfl, rfl, fun h => h, fun h => h⟩
  | disconnect =>
    unfold perform disconnect
    dsimp only
    split
    · refine ⟨rfl, rfl, fun h => (by cases h), fun h name req hm => ?_⟩
      rcases List.mem_append.mp hm with hm | hm
      · exact h name req hm
      · cases List.mem_singleton.mp hm
    · refine ⟨rfl, rfl, fun h => h, fun h name req hm => ?_⟩
      rw [List.append_nil] at hm
      exact h name req hm

lemma handle_spec (u l_id : ℤ) (data : List UInt8) (p : Process) :
    (p.handle u l_id data).1.heard =
        p.heard ++ (handlePacket u l_id (some data)).map (l_id, ·) ∧
      (p.handle u l_id data).1.joining = p.joining ∧
      ((p.handle u l_id data).1.connected = true → p.connected = true) ∧
      ∀ name req, .request name req ∉ (p.handle u l_id data).2 := by
  have hfold : ∀ (as : List Action) (acc : Process × List Outgoing),
      (as.foldl (perform l_id) acc).1.heard = acc.1.heard ++ as.map (l_id, ·) ∧
      (as.foldl (perform l_id) acc).1.joining = acc.1.joining ∧
      ((as.foldl (perform l_id) acc).1.connected = true → acc.1.connected = true) ∧
      ((∀ name req, .request name req ∉ acc.2) →
        ∀ name req, .request name req ∉ (as.foldl (perform l_id) acc).2) := by
    intro as
    induction as with
    | nil => exact fun acc => ⟨(List.append_nil _).symm, rfl, fun h => h, fun h => h⟩
    | cons a as ih =>
      intro acc
      obtain ⟨hheard, hjoining, hconnected, hsaid⟩ := ih (perform l_id acc a)
      obtain ⟨hheard', hjoining', hconnected', hsaid'⟩ := perform_spec l_id acc a
      refine ⟨?_, hjoining.trans hjoining', fun h => hconnected' (hconnected h),
        fun h => hsaid (hsaid' h)⟩
      rw [List.foldl_cons, hheard, hheard', List.append_assoc]
      rfl
  obtain ⟨hheard, hjoining, hconnected, hsaid⟩ := hfold (handlePacket u l_id (some data)) (p, [])
  exact ⟨hheard, hjoining, hconnected, hsaid fun _ _ hm => by cases hm⟩

lemma listens_receive {u : ℤ} {packet : Packet} (hr : p.receive u packet = .ok r) :
    Listens u packet p r := by
  have hnothing : Listens u packet p (p, []) :=
    ⟨fun x hx => .inl hx, fun h => h, fun _ _ hm => by cases hm⟩
  unfold receive at hr
  split at hr
  · cases hr
    exact hnothing
  rename_i l_id data hdata
  obtain ⟨hheard, hjoining, hconnected, hsaid⟩ := handle_spec u l_id data p
  have hnew : ∀ x ∈ (p.handle u l_id data).1.heard, x ∈ p.heard ∨ ∃ data,
      Packet.getInt8 packet.data = some (x.1, data) ∧ x.2 ∈ handlePacket u x.1 (some data) := by
    intro x hx
    rw [hheard] at hx
    rcases List.mem_append.mp hx with hx | hx
    · exact .inl hx
    · obtain ⟨a, ha, rfl⟩ := List.mem_map.mp hx
      exact .inr ⟨data, hdata, ha⟩
  split at hr
  · split at hr
    · cases hr
      exact ⟨hnew, fun _ _ => rfl, hsaid⟩
    · cases hr
      exact hnothing
  split at hr
  · cases hr
  split at hr
  · cases hr
    exact hnothing
  split at hr
  · cases hs : Client.step p.session (.setTime (Packet.readInt32 u (some data)).1) with
    | error _ =>
      rw [hs] at hr
      cases hr
    | ok session =>
      rw [hs] at hr
      cases hr
      have haside : Aside p ({ p with session := session }, [.heartbeat]) :=
        aside_session hs fun o ho => .inr (List.mem_singleton.mp ho)
      refine ⟨fun x hx => .inl hx, fun h hc => h (haside.connected hc), fun name req hm => ?_⟩
      cases List.mem_singleton.mp hm
  · cases hr
    refine ⟨hnew, fun h hc => ?_, hsaid⟩
    rw [hjoining]
    exact h (hconnected hc)

end Process

end Sfrpg

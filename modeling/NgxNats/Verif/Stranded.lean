import NgxNats.Verif.Upkeep

/-!
# The module is never stranded

Between events the module has an open connection or waits for the reconnect timer. The one way
out is a connection structure that could not be allocated: `ngx_nats_connect_loop` then returns
without arming the timer.
-/
namespace NgxNats

open Program (Leads Moves)

/-- The connection of the module is open, or being opened, or the reconnect timer is set. -/
def Anchored (w : World) : Prop :=
  w.attached = true ∧ w.live.isSome = true ∨ w.reconnectTimer.isSome = true

instance (w : World) : Decidable (Anchored w) := inferInstanceAs (Decidable (_ ∨ _))

/-- An initialised module. -/
structure Working (w : World) : Prop where
  dataSet : w.dataSet = true
  formed : w.writeBuf.WellFormed

/-- An initialised module that is anchored, unless an allocation failed. -/
structure Moored (w : World) : Prop extends Working w where
  anchored : Anchored w ∨ .unallocated ∈ w.log

variable {env : Env} {k : Calls} {w w' : World}

/-- No act undoes that the module was initialised. -/
theorem Working.acts (working : Working w) (acts : Acts env w w') : Working w' := by
  obtain ⟨formed, steps⟩ := acts working.formed
  refine ⟨?_, formed⟩
  clear acts formed
  induction steps with
  | refl => exact working.dataSet
  | tail _ act ih =>
    cases act with
    | start => rfl
    | _ => exact ih

/-- A part of the module keeps it initialised. -/
theorem Working.leads {α : Type} {program : Comm α} (working : Working w)
    (moves : Moves (Acts env) program w) :
    Leads program w (fun _ => Working) fun _ => True :=
  moves.leads.weaken (fun _ _ acts => working.acts acts) fun _ _ => trivial

/-- What has nothing to do with the connection keeps the module anchored. -/
theorem Moored.apart (moored : Moored w) (apart : Apart w w') : Moored w' := by
  obtain ⟨events, log, -⟩ := apart.log
  refine ⟨⟨by rw [apart.dataSet, moored.dataSet], apart.formed moored.formed⟩, ?_⟩
  rcases moored.anchored with anchored | failed
  · unfold Anchored
    rw [apart.attached, apart.live, apart.reconnectTimer]
    exact .inl anchored
  · rw [log]
    exact .inr (List.mem_append_left events failed)

/-- Connecting anchors the module, and the clients' callbacks keep it anchored. -/
structure CallsMoor (env : Env) (k : Calls) : Prop extends CallsAct env k where
  moor : ∀ w, Working w → Leads k.connect w (fun _ => Moored) fun _ => True
  serve : ∀ call w, Moored w → Leads (k.callback call) w (fun _ => Moored) fun _ => True

/-- Behind the armed timer the module is anchored. -/
theorem addReconnectTimer_moors (working : Working w) :
    Leads (addReconnectTimer env) w (fun _ => Moored) fun _ => True := by
  apply Leads.get
  split
  · exact Leads.modify ⟨⟨working.dataSet, working.formed⟩, .inl (.inr rfl)⟩
  · next armed =>
    refine Leads.pure ⟨working, .inl (.inr ?_)⟩
    exact Option.isSome_iff_ne_none.mpr armed

/-- Closing a connection anchors the module again. -/
theorem closeConnection_moors (calls : CallsMoor env k) (working : Working w) (reason : Reason) :
    Leads (closeConnection env k reason true) w (fun _ => Moored) fun _ => True := by
  refine closeConnection_through Working (fun _ => trivial) ⟨working.dataSet, working.formed⟩ ?_ ?_
  · intro i w₁ working₁
    have told : Moves (Acts env) (emit (.disconnected i)) w₁ := emit_acts rfl w₁
    apply Leads.bind (working₁.leads told)
    intro _ w₂ working₂
    exact working₂.leads (calls.callback _ w₂)
  · intro immediate w₁ working₁
    apply abandon_through
    · exact calls.moor _ ⟨working₁.dataSet, working₁.formed.reset⟩
    · exact addReconnectTimer_moors ⟨working₁.dataSet, working₁.formed.reset⟩

/-- The moorings survive what the module does while it is connected. -/
theorem CallsMoor.keeps (calls : CallsMoor env k) : Keeps env k Moored fun _ => True :=
  Keeps.ofApart (fun moored => moored.dataSet) (fun moored => moored.formed) (fun _ => trivial)
    (fun moored apart => moored.apart apart)
    (fun reason moored => closeConnection_moors calls moored.toWorking reason)
    fun call moored => calls.serve call _ moored

/-- The loop over the servers anchors the module unless it asks for more. -/
theorem connectLoop_moors (calls : CallsMoor env k) (working : Working w) :
    Leads (connectLoop env k) w
      (fun rc w' => Working w' ∧ (rc ≠ ngxAgain → Moored w')) fun _ => True := by
  apply Leads.bind (working.leads (nextServer_acts w))
  intro more w₁ working₁
  split
  · apply Leads.bind (addReconnectTimer_moors working₁)
    intro _ w₂ moored₂
    exact Leads.pure ⟨moored₂.toWorking, fun _ => moored₂⟩
  · have emptied : Acts env w₁ { w₁ with
        readBuf := w₁.readBuf.reset, writeBuf := w₁.writeBuf.reset } := fun formed =>
      ⟨formed.reset, .tail (.single (.fillRead w₁.readBuf.reset)) (.fillWrite w₁.writeBuf.reset)⟩
    apply Leads.bind (working₁.leads (Moves.modify emptied))
    intro _ w₂ working₂
    have asked : Moves (Acts env) (ask env.pcalloc) w₂ := ask_acts _ w₂
    apply Leads.bind (working₂.leads asked)
    intro granted w₃ working₃
    split
    · apply Leads.of_run (emit_bind w₃ .unallocated _)
      have failed : Moored { w₃ with log := w₃.log ++ [.unallocated] } :=
        ⟨⟨working₃.dataSet, working₃.formed⟩, .inr (by simp)⟩
      exact Leads.pure ⟨failed.toWorking, fun _ => failed⟩
    · apply Leads.get
      split
      · exact Leads.fault trivial
      · apply Leads.of_run (record_bind w₃ .opened _ _)
        apply Leads.of_run (emit_bind _ (.attempt w₃.currIndex.toNat) _)
        apply Leads.of_run (ask_bind _ env.connectPeer _)
        have again : ngxAgain = ngxAgain := rfl
        split
        · exact Leads.pure ⟨⟨working₃.dataSet, working₃.formed⟩, fun other => absurd again other⟩
        · exact Leads.pure ⟨⟨working₃.dataSet, working₃.formed⟩, fun other => absurd again other⟩
        · exact Leads.pure ⟨⟨working₃.dataSet, working₃.formed⟩, fun other => absurd again other⟩
        · apply Leads.of_run (setNc_bind _ _ _)
          refine Leads.pure ⟨⟨working₃.dataSet, working₃.formed⟩, fun _ => ?_⟩
          exact ⟨⟨working₃.dataSet, working₃.formed⟩, .inl (.inl ⟨rfl, rfl⟩)⟩
        · apply Leads.of_run (setNc_bind _ _ _)
          have wired : Moored { w₃ with
              clock := w₃.clock + 1
              attached := true
              nc := { server := w₃.currIndex.toNat, connection := some {} }
              log := w₃.log ++ [.opened] ++ [.attempt w₃.currIndex.toNat] } :=
            ⟨⟨working₃.dataSet, working₃.formed⟩, .inl (.inl ⟨rfl, rfl⟩)⟩
          apply Leads.bind (calls.keeps.leads wired (connectionInit_calm _))
          intro _ w₄ moored₄
          apply Leads.bind (calls.keeps.flush moored₄)
          intro _ w₅ moored₅
          exact Leads.pure ⟨moored₅.toWorking, fun _ => moored₅⟩

/-- `ngx_nats_connect` anchors the module. -/
theorem connect_moors (calls : CallsMoor env k) (working : Working w) :
    Leads (connect env k) w (fun _ => Moored) fun _ => True := by
  apply Leads.repeatUntil Working
  · exact fun _ _ => trivial
  · intro w₁ working₁
    apply Leads.bind (connectLoop_moors calls working₁)
    rintro rc w₂ ⟨working₂, moors⟩
    split
    · next other => exact Leads.pure (moors other)
    · exact Leads.pure working₂
  · exact working

/-- Connecting and the callbacks moor the module, to any depth. -/
theorem callsMoor (env : Env) (depth : Nat) : CallsMoor env (calls env depth) := by
  induction depth with
  | zero =>
    exact ⟨calls_act env 0, fun _ _ => Leads.fault trivial, fun _ _ _ => Leads.fault trivial⟩
  | succ depth ih =>
    exact ⟨calls_act env (depth + 1), fun _ working => connect_moors ih working,
      fun call _ moored => ih.keeps.script moored call⟩

/-- A run moors the module from `ngx_nats_init` on. -/
theorem run_moors (env : Env) (depth : Nat) (events : List Step) (read write : Memory UInt8) :
    Leads (run env depth events) (.start read write) (fun _ w => Unstarted w ∨ Moored w)
      fun _ => True := by
  have calls := callsMoor env depth
  exact calls.keeps.run (fun moored _ => calls.moor _ ⟨moored.dataSet, moored.formed⟩)
    (fun unstarted => calls.moor _ ⟨rfl, unstarted.formed⟩) events read write

/-- The module is never stranded: whenever an event handler has finished, it has a connection
whose socket is open or waits for the reconnect timer, unless the allocation of a connection
structure failed. -/
theorem never_stranded (env : Env) (depth : Nat) (events : List Step) (read write : Memory UInt8)
    (finished : (run env depth events (.start read write)).1 = .ok ())
    (initialised : (reached env depth events read write).dataSet = true)
    (allocated : .unallocated ∉ (reached env depth events read write).log) :
    Anchored (reached env depth events read write) := by
  have ended : run env depth events (.start read write) =
      (.ok (), reached env depth events read write) := by
    rw [← finished]
    rfl
  rcases (run_moors env depth events read write).ok ended with unstarted | moored
  · exact absurd (unstarted.dataSet.symm.trans initialised) Bool.false_ne_true
  · exact moored.anchored.resolve_right allocated

/-- The only server accepts the connection and closes it: the module waits. -/
theorem never_stranded_lost :
    Anchored (reached granting 2 [.init, .readable [.eof]] (fun _ => 0) fun _ => 0) :=
  never_stranded granting 2 [.init, .readable [.eof]] (fun _ => 0) (fun _ => 0)
    (by decide +kernel) (by decide +kernel) (by decide +kernel)

/-- The connection structure cannot be allocated. -/
def withholding : Env := { granting with pcalloc := fun _ => false }

/-- Then the module is stranded as soon as it is initialised: no connection, no timer. -/
theorem stranded_at_start :
    (run withholding 2 [.init] (.start (fun _ => 0) fun _ => 0)).1 = .ok () ∧
    (reached withholding 2 [.init] (fun _ => 0) fun _ => 0).dataSet = true ∧
    ¬Anchored (reached withholding 2 [.init] (fun _ => 0) fun _ => 0) := by
  decide +kernel

end NgxNats

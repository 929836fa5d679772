import OneSided.Proofs.Assembly.Answers
import OneSided.Proofs.Calibration.Monotonicity
import OneSided.Proofs.Drive.Regime

/-! The torque that motors have. A motor is made with a maximum torque, and may be given a
no-load speed, again and again; both are checked. Main statement: in exact arithmetic the
torque never leaves the range from zero to the maximum, falls along a line to zero at the
no-load speed, and is the same both ways; so the bounds of a motor are always in order, and
asking it for its regime never fails for them. -/

namespace OneSided

namespace Motor

variable {α : Type} [Scalar α]

/-! ### Motors that can be made -/

/-- The motors that can be made. One that is there already may be given a no-load speed, and
registering it gives it a handle, in any order and any number of times. -/
inductive Made : Motor α → Prop
  | make {t t' : Topology} {body : Mobilizer} {which : Nat} {target maxTorque : α} {m : Motor α}
      (h : make t body which target maxTorque = .ok (m, t')) : Made m
  | withNoLoad {m m' : Motor α} {speed : α} (hm : Made m) (h : m.withNoLoad speed = .ok m') :
      Made m'
  | withHandle {m : Motor α} (hm : Made m) (h : Handle .drive) :
      Made (BoundedDrive.withHandle m h)

/-- What the checks leave of a motor. -/
structure Valid (m : Motor α) : Prop where
  which : m.which < m.body.count
  maxTorque : 0 ≤ m.maxTorque
  noLoad : ∀ n, m.noLoad = some n → 0 < n

theorem valid_of_make {t t' : Topology} {body : Mobilizer} {which : Nat} {target maxTorque : α}
    {m : Motor α} (h : make t body which target maxTorque = .ok (m, t')) : m.Valid := by
  obtain ⟨hp, rfl, -⟩ := (construct_makes body which target maxTorque).of_complete h
  exact ⟨hp.2.2, hp.1.2, nofun⟩

theorem Made.valid {m : Motor α} (hm : m.Made) : m.Valid := by
  induction hm with
  | make h => exact valid_of_make h
  | withNoLoad _ h ih =>
    obtain ⟨-, hpos, rfl⟩ := withNoLoad_eq_ok.1 h
    refine ⟨ih.which, ih.maxTorque, fun n hn => ?_⟩
    cases hn
    exact hpos
  | withHandle _ h ih => exact ⟨ih.which, ih.maxTorque, ih.noLoad⟩

/-! ### Division -/

/-- The torque that the motor has, with another division in place of the scalar's, one that
may fail. -/
def availableTorqueOver (div : α → α → Except (Fault α) α) (m : Motor α) (s : State α) :
    Except (Fault α) α :=
  match m.noLoad with
  | some noLoad => do
    let share := 1 - (← div (Scalar.abs (← m.body.speed s m.which)) noLoad)
    return m.maxTorque * if 0 < share then share else 0
  | none => .ok m.maxTorque

theorem availableTorque_eq_over (m : Motor α) (s : State α) :
    m.availableTorque s = m.availableTorqueOver (fun x y => .ok (x / y)) s := rfl

/-- The only number that a motor divides by is its no-load speed. -/
theorem Valid.availableTorqueOver_eq {m : Motor α} (hm : m.Valid)
    {div : α → α → Except (Fault α) α} (hdiv : ∀ x y, 0 < y → div x y = .ok (x / y))
    (s : State α) : m.availableTorqueOver div s = m.availableTorque s := by
  rw [availableTorque_eq_over]
  unfold availableTorqueOver
  split
  · rename_i n hn
    simp only [hdiv _ n (hm.noLoad n hn)]
  · rfl

/-! ### The speed of the coordinate -/

/-- The coordinate of a motor has a speed, or the state has too few of them. -/
theorem Valid.speed_cases {m : Motor α} (hm : m.Valid) (s : State α) :
    (∃ u, m.body.speed s m.which = .ok u) ∨ m.body.speed s m.which = .error .outOfBounds := by
  have hplace : (m.body.place m.which : Except (Rejection α) Nat) = .ok (m.body.first + m.which) :=
    Mobilizer.place_eq_ok.2 ⟨hm.which, rfl⟩
  rw [(Mobilizer.entries_of_place hplace s).2.1]
  by_cases hu : m.body.first + m.which < s.u.length
  · exact .inl ⟨_, Fault.fetch_of_lt hu⟩
  · exact .inr (Fault.fetch_of_le (Nat.le_of_not_lt hu))

end Motor

/-! ### Exact torques -/

namespace Motor

variable [Grain] {m : Motor ℝ} {s : State ℝ} {u : ℝ}

/-- The torque at a speed: all of it, or as much as the speed lacks to the no-load speed. -/
noncomputable def torqueLeft (m : Motor ℝ) (u : ℝ) : ℝ :=
  match m.noLoad with
  | some noLoad => m.maxTorque * shortfall noLoad |u|
  | none => m.maxTorque

omit [Grain] in
theorem torqueLeft_of_none (h : m.noLoad = none) (u : ℝ) : m.torqueLeft u = m.maxTorque := by
  rw [torqueLeft, h]

omit [Grain] in
theorem torqueLeft_of_some {n : ℝ} (h : m.noLoad = some n) (u : ℝ) :
    m.torqueLeft u = m.maxTorque * shortfall n |u| := by
  rw [torqueLeft, h]

theorem torqueAt_eq (m : Motor ℝ) {n : ℝ} (hn : 0 < n) (u : ℝ) :
    m.torqueAt n u = m.maxTorque * shortfall n |u| := by
  rw [shortfall_of_pos hn, max_comm, max_def_lt]
  rfl

theorem Valid.availableTorque_eq (hm : m.Valid) (hu : m.body.speed s m.which = .ok u) :
    m.availableTorque s = .ok (m.torqueLeft u) := by
  unfold availableTorque
  split
  · rename_i n hn
    rw [hu, torqueLeft_of_some hn, ← m.torqueAt_eq (hm.noLoad n hn)]
    rfl
  · rename_i hn
    rw [torqueLeft_of_none hn]

theorem Valid.torqueLeft_nonneg (hm : m.Valid) (u : ℝ) : 0 ≤ m.torqueLeft u := by
  cases hn : m.noLoad with
  | none => rw [torqueLeft_of_none hn]; exact hm.maxTorque
  | some n =>
    rw [torqueLeft_of_some hn]
    exact mul_nonneg hm.maxTorque (shortfall_nonneg (hm.noLoad n hn).le _)

theorem Valid.torqueLeft_le (hm : m.Valid) (u : ℝ) : m.torqueLeft u ≤ m.maxTorque := by
  cases hn : m.noLoad with
  | none => rw [torqueLeft_of_none hn]
  | some n =>
    rw [torqueLeft_of_some hn]
    exact mul_le_of_le_one_right hm.maxTorque
      (shortfall_le_one (hm.noLoad n hn).le (abs_nonneg u))

theorem Valid.torqueLeft_le_of_abs_le (hm : m.Valid) {v : ℝ} (h : |u| ≤ |v|) :
    m.torqueLeft v ≤ m.torqueLeft u := by
  cases hn : m.noLoad with
  | none => rw [torqueLeft_of_none hn, torqueLeft_of_none hn]
  | some n =>
    rw [torqueLeft_of_some hn, torqueLeft_of_some hn]
    exact mul_le_mul_of_nonneg_left (shortfall_antitone (hm.noLoad n hn).le h) hm.maxTorque

omit [Grain] in
theorem torqueLeft_neg (m : Motor ℝ) (u : ℝ) : m.torqueLeft (-u) = m.torqueLeft u := by
  simp only [torqueLeft, abs_neg]

theorem Valid.torqueLeft_of_le (hm : m.Valid) {n : ℝ} (hn : m.noLoad = some n) (h : |u| ≤ n) :
    m.torqueLeft u = m.maxTorque * (1 - |u| / n) := by
  rw [torqueLeft_of_some hn, shortfall_of_pos_of_le (hm.noLoad n hn) h]

theorem Valid.torqueLeft_eq_zero_iff (hm : m.Valid) {n : ℝ} (hn : m.noLoad = some n) :
    m.torqueLeft u = 0 ↔ n ≤ |u| ∨ m.maxTorque = 0 := by
  have hpos : 0 < n := hm.noLoad n hn
  rw [torqueLeft_of_some hn, mul_eq_zero, or_comm]
  refine or_congr_left ⟨fun h => ?_, shortfall_of_le⟩
  rw [shortfall_of_pos hpos, max_eq_right_iff, sub_nonpos] at h
  exact (one_le_div hpos).1 h

/-! ### Bounds and regimes -/

theorem Valid.bounds_eq (hm : m.Valid) (hu : m.body.speed s m.which = .ok u) :
    BoundedDrive.bounds m s = .ok (-m.torqueLeft u, m.torqueLeft u) := by
  change m.bounds s = _
  rw [bounds, hm.availableTorque_eq hu]
  rfl

theorem Valid.bounds_ordered (hm : m.Valid) (u : ℝ) : -m.torqueLeft u ≤ m.torqueLeft u :=
  neg_le_self (hm.torqueLeft_nonneg u)

/-- Asked for its regime, a motor fails at most for the lack of a speed. -/
theorem Valid.resolve_eq_error (hm : m.Valid) {h : ℝ} {fault : Fault ℝ}
    (hr : BoundedDrive.resolve m s h = .error fault) : fault = .outOfBounds := by
  cases hn : m.noLoad with
  | none =>
    -- without a no-load speed nobody asks for the speed
    have hd : BoundedDrive.bounds m s = .ok (-m.maxTorque, m.maxTorque) := by
      change m.bounds s = _
      rw [bounds, availableTorque, hn]
      rfl
    obtain ⟨r, hok, -⟩ := BoundedDrive.exists_resolve hd (neg_le_self hm.maxTorque) h
    cases hok.symm.trans hr
  | some n =>
    rcases hm.speed_cases s with ⟨u, hu⟩ | hu
    · obtain ⟨r, hok, -⟩ := BoundedDrive.exists_resolve (hm.bounds_eq hu) (hm.bounds_ordered u) h
      cases hok.symm.trans hr
    · have hd : BoundedDrive.bounds m s = .error .outOfBounds := by
        change m.bounds s = _
        rw [bounds, availableTorque, hn, hu]
        rfl
      rw [BoundedDrive.resolve, hd] at hr
      exact (Except.error.inj hr).symm

end Motor

/-- The torque of a motor, however it was made and in whatever state, in exact arithmetic. It
is a function of the speed of the motor's coordinate, from zero to the maximum torque, and its
bounds are the same torque either way, so that the motor always has a regime. No state brings
it to fail for its bounds, and all states of an assembly that has its body tell the speed.
Without a no-load speed the torque is the maximum one. With one it falls along a line up to
that speed, and is zero from there on, and before only if there never is any; speeds in both
directions count the same, and a faster one leaves no more. The motor divides by nothing but a
number above zero. -/
theorem torque_limited [Grain] {m : Motor ℝ} (hm : m.Made) :
    (∀ (s : State ℝ) (u : ℝ), m.body.speed s m.which = .ok u →
      m.availableTorque s = .ok (m.torqueLeft u) ∧
      BoundedDrive.bounds m s = .ok (-m.torqueLeft u, m.torqueLeft u) ∧
      ∀ h, ∃ r, BoundedDrive.resolve m s h = .ok r) ∧
    (∀ (s : State ℝ) (h : ℝ) (fault : Fault ℝ),
      BoundedDrive.resolve m s h = .error fault → fault = .outOfBounds) ∧
    (∀ (steps : List (BuildStep ℝ)) (ops : List (Operation ℝ)),
      m.body ∈ (Workshop.build steps).topology.bodies →
      ∃ u, m.body.speed (Operation.runAll ops (Workshop.build steps).topology.allocate) m.which =
        .ok u) ∧
    (∀ u, 0 ≤ m.torqueLeft u ∧ m.torqueLeft u ≤ m.maxTorque ∧ -m.torqueLeft u ≤ m.torqueLeft u) ∧
    (∀ u, m.torqueLeft (-u) = m.torqueLeft u) ∧
    (∀ u v, |u| ≤ |v| → m.torqueLeft v ≤ m.torqueLeft u) ∧
    (m.noLoad = none → (∀ s, m.availableTorque s = .ok m.maxTorque) ∧
      ∀ u, m.torqueLeft u = m.maxTorque) ∧
    (∀ n, m.noLoad = some n → 0 < n ∧
      (∀ u, |u| ≤ n → m.torqueLeft u = m.maxTorque * (1 - |u| / n)) ∧
      ∀ u, m.torqueLeft u = 0 ↔ n ≤ |u| ∨ m.maxTorque = 0) ∧
    ∀ div, (∀ x y, 0 < y → div x y = .ok (x / y)) →
      ∀ s, m.availableTorqueOver div s = m.availableTorque s := by
  have hv : m.Valid := hm.valid
  refine ⟨fun s u hu => ⟨hv.availableTorque_eq hu, hv.bounds_eq hu, fun h => ?_⟩,
    fun s h fault => hv.resolve_eq_error, fun steps ops hbody => ?_,
    fun u => ⟨hv.torqueLeft_nonneg u, hv.torqueLeft_le u, hv.bounds_ordered u⟩, m.torqueLeft_neg,
    fun u v => hv.torqueLeft_le_of_abs_le, fun hn => ⟨fun s => ?_, Motor.torqueLeft_of_none hn⟩,
    fun n hn => ⟨hv.noLoad n hn, fun u => hv.torqueLeft_of_le hn,
      fun u => hv.torqueLeft_eq_zero_iff hn⟩,
    fun div hdiv => hv.availableTorqueOver_eq hdiv⟩
  · obtain ⟨r, hr, -⟩ := BoundedDrive.exists_resolve (hv.bounds_eq hu) (hv.bounds_ordered u) h
    exact ⟨r, hr⟩
  · exact Mobilizer.speed_answered_of_mem hbody hv.which ops
  · rw [Motor.availableTorque, hn]

/-- A motor that is given a no-load speed of two, is registered and then given one of four. At a
quarter of that speed, backwards, three quarters of its torque are left, and beyond it none. -/
theorem torque_limited_of_motor :
    let _ : Grain := ⟨2⁻¹ ^ 52⟩
    let body : Mobilizer := ⟨⟨1⟩, 0, 1⟩
    let motor : Motor ℝ := ⟨body, 0, 10, some 4, ⟨⟨0⟩, 0, 3⟩, some ⟨0⟩⟩
    let t : Topology := (Topology.empty.addBody 1).2
    let s : State ℝ := Operation.runAll [.setSpeed 0 (-1)] (t.addConstraint 1).2.allocate
    motor.Made ∧ motor.body.speed s motor.which = .ok (-1) ∧
      motor.availableTorque s = .ok (15 / 2) ∧
      BoundedDrive.bounds motor s = .ok (-(15 / 2), 15 / 2) ∧
      (∃ r, BoundedDrive.resolve motor s 20 = .ok r) ∧
      motor.torqueLeft 1 = motor.torqueLeft (-1) ∧ motor.torqueLeft 2 ≤ motor.torqueLeft (-1) ∧
      motor.torqueLeft (-5) = 0 := by
  intro _ body motor t s
  have hmake : Motor.make t body 0 (3 : ℝ) 10 =
      .ok (⟨body, 0, 10, none, ⟨⟨0⟩, 0, 3⟩, none⟩, (t.addConstraint 1).2) := by
    obtain ⟨x, hx, rfl⟩ := (Motor.construct_makes body 0 (3 : ℝ) 10).complete_eq_ok
      ⟨⟨rfl, by norm_num⟩, rfl, Nat.one_pos⟩ t
    exact hx
  have hnoLoad (m : Motor ℝ) {x : ℝ} (hx : 0 < x) :
      m.withNoLoad x = .ok { m with noLoad := some x } :=
    Motor.withNoLoad_eq_ok.2 ⟨⟨rfl, hx.le⟩, hx, rfl⟩
  have hmade : motor.Made :=
    .withNoLoad (.withHandle (.withNoLoad (.make hmake) (hnoLoad _ two_pos)) ⟨0⟩)
      (hnoLoad _ four_pos)
  have hu : motor.body.speed s motor.which = .ok (-1) := rfl
  obtain ⟨hstates, -, -, -, heven, hfalls, -, hline, -⟩ := torque_limited hmade
  obtain ⟨htorque, hbounds, hregime⟩ := hstates s (-1) hu
  obtain ⟨-, hbelow, hzero⟩ := hline 4 rfl
  have hleft : motor.torqueLeft (-1) = 15 / 2 := by
    rw [hbelow (-1) (by norm_num)]
    norm_num [motor]
  rw [hleft] at htorque hbounds
  exact ⟨hmade, hu, htorque, hbounds, hregime 20,
    (heven 1).symm, hfalls _ _ (by norm_num), (hzero (-5)).2 (.inl (by norm_num))⟩

end OneSided

import OneSided.Document.Basic
import OneSided.Lock.Basic

/-! How bodies, motions, half spaces and locks are stored. Vectors and rotations are
plain lists of numbers and are not normalized on reading. -/

namespace OneSided

open Document Stored

variable {α : Type} [Scalar α]

/-- The items of a list of numbers. -/
def Document.numbers : Document α → Option (List α)
  | list items => items.mapM decode
  | _ => none

instance : Stored (Vec3 α) α where
  encode v := .list [encode v.x, encode v.y, encode v.z]
  decode d :=
    match d.numbers with
    | some [x, y, z] => some ⟨x, y, z⟩
    | _ => none

instance : Stored (Rotation α) α where
  encode r := .list [encode r.i, encode r.j, encode r.k, encode r.w]
  decode d :=
    match d.numbers with
    | some [i, j, k, w] => some ⟨i, j, k, w⟩
    | _ => none

instance : Stored (Pose α) α where
  encode p := .record [("rotation", encode p.rotation), ("translation", encode p.offset)]
  decode d := do
    match ← d.parts ["rotation", "translation"] with
    | [r, t] => some ⟨← required r, ← required t⟩
    | _ => none

instance : Stored (Motion α) α where
  encode m := .record [("pose", encode m.pose), ("linvel", encode m.velocity),
    ("angvel", encode m.spin), ("linacc", encode m.acceleration), ("angacc", encode m.spinRate)]
  decode d := do
    match ← d.parts ["pose", "linvel", "angvel", "linacc", "angacc"] with
    | [p, v, w, a, b] =>
      some ⟨← required p, ← required v, ← required w, ← required a, ← required b⟩
    | _ => none

instance {β : Type} : Stored Mobilizer β where
  encode m := .record [("index", encode m.handle), ("first_q", encode m.first),
    ("nq", encode m.count)]
  decode d := do
    match ← d.parts ["index", "first_q", "nq"] with
    | [h, f, c] => some ⟨← required h, ← required f, ← required c⟩
    | _ => none

instance : Stored (HalfSpace α) α where
  encode h := .record [("frame", encode h.frame), ("height", encode h.height)]
  decode d := do
    match ← d.parts ["frame", "height"] with
    | [f, h] => some ⟨← required f, ← required h⟩
    | _ => none

instance : Stored (Ball α) α where
  encode g := .record [("plane_body", encode g.base), ("plane", encode g.plane),
    ("follower", encode g.follower), ("station", encode g.centre), ("radius", encode g.radius)]
  decode d := do
    match ← d.parts ["plane_body", "plane", "follower", "station", "radius"] with
    | [b, p, f, c, r] =>
      some ⟨← required b, ← required p, ← required f, ← required c, ← required r⟩
    | _ => none

instance : Stored (CoordinateLock α) α where
  encode l := .record [("index", encode l.constraint), ("q_index", encode l.place),
    ("value", encode l.value)]
  decode d := do
    match ← d.parts ["index", "q_index", "value"] with
    | [c, p, v] => some ⟨← required c, ← required p, ← required v⟩
    | _ => none

instance : Stored (SpeedLock α) α where
  encode l := .record [("index", encode l.constraint), ("u_index", encode l.place),
    ("speed", encode l.speed)]
  decode d := do
    match ← d.parts ["index", "u_index", "speed"] with
    | [c, p, v] => some ⟨← required c, ← required p, ← required v⟩
    | _ => none

instance : Stored (GlidingBall α) α where
  encode l := .record [("index", encode l.constraint), ("geometry", encode l.ball)]
  decode d := do
    match ← d.parts ["index", "geometry"] with
    | [c, b] => some ⟨← required c, ← required b⟩
    | _ => none

instance : Stored (StickingBall α) α where
  encode l := .record [("index", encode l.constraint), ("geometry", encode l.ball)]
  decode d := do
    match ← d.parts ["index", "geometry"] with
    | [c, b] => some ⟨← required c, ← required b⟩
    | _ => none

/-- A lock as it is stored, whatever it is. -/
def Lock.document : Lock α → Document α
  | coordinate l => encode l
  | speed l => encode l
  | gliding l => encode l
  | sticking l => encode l

end OneSided

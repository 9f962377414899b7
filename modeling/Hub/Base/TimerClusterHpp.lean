import Hub.Lib.Heap
import Hub.Lib.OrderedSet
import Hub.Lib.UnorderedMap

namespace hub.hpp

inductive TimerType where
  | SINGLE
  | CYCLE
deriving DecidableEq

/-- `κ` are the callbacks and `υ` the user data. A `std::function` may be empty, and
`timer_expire` is the time of the steady clock in nanoseconds. -/
structure TimerInfo (κ υ : Type) where
  timer_id : UInt32
  timer_type : TimerType
  timer_interval : UInt32
  timer_expire : Int
  timer_cb : Option κ
  timer_userdata : υ

instance {κ υ : Type} [Inhabited υ] : Inhabited (TimerInfo κ υ) := ⟨⟨0, .SINGLE, 0, 0, none, default⟩⟩

inductive TimerInfoRef where

abbrev TimerInfoPtr : Type := Ptr TimerInfoRef

abbrev TimerInfos (κ υ : Type) : Type := Heap TimerInfoRef (TimerInfo κ υ)

def after (now : Int) (milliseconds : UInt32) : Int := now + milliseconds.toNat * 1000000

def TimerInfoCompare {κ υ : Type} (infos : TimerInfos κ υ) (lhs rhs : TimerInfoPtr) : Bool :=
  if (infos.get lhs).timer_expire ≠ (infos.get rhs).timer_expire then
    (infos.get lhs).timer_expire < (infos.get rhs).timer_expire
  else (infos.get lhs).timer_id < (infos.get rhs).timer_id

/-- The timers of a `TimerCluster`. `timer_set` is listed in the order of its comparison. -/
structure TimerCluster (κ υ : Type) where
  infos : TimerInfos κ υ
  timer_set : List TimerInfoPtr
  timer_map : UnorderedMap UInt32 TimerInfoPtr

/-- The critical sections, with the clock readings that they take. -/
inductive TimerEvent (κ υ : Type) where
  | AddTimer (id : UInt32) (type : TimerType) (timer_interval : UInt32) (cb : Option κ) (userdata : υ) (now : Int)
  | DelTimer (id : UInt32)
  | ResetTimer (id : UInt32) (new_interval : UInt32) (now : Int)
  | Processer (now : Int)

inductive TimerOutcome (κ υ : Type) where
  /-- `AddTimer` returns `true` and has made the object. -/
  | adds (timer_info : TimerInfoPtr)
  | returns (ok : Bool)
  /-- `Processer` waits, until the given time if there is a timer. -/
  | waits (expire : Option Int)
  /-- `Processer` has taken the timer, which was as given, and calls its callback. -/
  | fires (timer_info : TimerInfoPtr) (info : TimerInfo κ υ)

/-- What a critical section does besides changing the timers. `writes` are its assignments to
`timer_expire`: the object, and the elements of `timer_set` at that moment. -/
structure TimerEffect (κ υ : Type) where
  outcome : TimerOutcome κ υ
  writes : List (TimerInfoPtr × List TimerInfoPtr)

namespace TimerCluster

variable {κ υ : Type}

def init [Inhabited υ] : TimerCluster κ υ where
  infos := .empty
  timer_set := []
  timer_map := ∅

variable (c : TimerCluster κ υ)

def TimerExist (id : UInt32) : Bool := (c.timer_map.lookup id).isSome

def AddTimer (id : UInt32) (type : TimerType) (timer_interval : UInt32) (cb : Option κ)
    (userdata : υ) (now : Int) : TimerCluster κ υ × TimerEffect κ υ :=
  match c.timer_map.lookup id with
  | some _ => (c, ⟨.returns false, []⟩)
  | none =>
    let timer_info := c.infos.fresh
    let infos := c.infos.alloc ⟨id, type, timer_interval, after now timer_interval, cb, userdata⟩
    ({ infos := infos
       timer_set := OrderedSet.insert (TimerInfoCompare infos) timer_info c.timer_set
       timer_map := AList.insert id timer_info c.timer_map },
      ⟨.adds timer_info, []⟩)

def DelTimer (id : UInt32) : TimerCluster κ υ × TimerEffect κ υ :=
  match c.timer_map.lookup id with
  | none => (c, ⟨.returns false, []⟩)
  | some timer_info =>
    ({ c with
        timer_set := OrderedSet.erase (TimerInfoCompare c.infos) timer_info c.timer_set
        timer_map := c.timer_map.erase id },
      ⟨.returns true, []⟩)

def ResetTimer (id new_interval : UInt32) (now : Int) : TimerCluster κ υ × TimerEffect κ υ :=
  match c.timer_map.lookup id with
  | none => (c, ⟨.returns false, []⟩)
  | some timer_info =>
    let erased := OrderedSet.erase (TimerInfoCompare c.infos) timer_info c.timer_set
    let infos := c.infos.set timer_info
      { c.infos.get timer_info with timer_interval := new_interval, timer_expire := after now new_interval }
    ({ c with
        infos := infos
        timer_set := OrderedSet.insert (TimerInfoCompare infos) timer_info erased },
      ⟨.returns true, [(timer_info, erased)]⟩)

def Processer (now : Int) : TimerCluster κ υ × TimerEffect κ υ :=
  match c.timer_set with
  | [] => (c, ⟨.waits none, []⟩)
  | timer_info :: rest =>
    let info := c.infos.get timer_info
    if info.timer_expire ≤ now then
      match info.timer_type with
      | .CYCLE =>
        let infos := c.infos.set timer_info { info with timer_expire := after now info.timer_interval }
        ({ c with
            infos := infos
            timer_set := OrderedSet.insert (TimerInfoCompare infos) timer_info rest },
          ⟨.fires timer_info info, [(timer_info, rest)]⟩)
      | .SINGLE =>
        ({ c with timer_set := rest, timer_map := c.timer_map.erase info.timer_id }, ⟨.fires timer_info info, []⟩)
    else (c, ⟨.waits (some info.timer_expire), []⟩)

def step : TimerEvent κ υ → TimerCluster κ υ × TimerEffect κ υ
  | .AddTimer id type timer_interval cb userdata now => c.AddTimer id type timer_interval cb userdata now
  | .DelTimer id => c.DelTimer id
  | .ResetTimer id new_interval now => c.ResetTimer id new_interval now
  | .Processer now => c.Processer now

end TimerCluster

end hub.hpp

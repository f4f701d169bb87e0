import Sysm.Lib.ExpiringMap
import Sysm.ProxyCacheRuns
import Sysm.ReferenceMapValues

namespace Sysm

variable {ν : Type}

/-- Values by method and key. -/
abbrev HeldValues (ν : Type) := ExpiringMap (Method × Arg) ν

/-- The value that the method has returned, if it is not `null`. -/
def Outcome.value : Outcome ν → Option ν
  | .returned retval => retval
  | .target _ => none
  | .failed _ _ => none

/-- What the proxy is for: the value that is held, if it is not out of time, and else
that of the method, which is then held in its place. -/
def HeldValues.invoke (held : HeldValues ν) (expire : Int32) (call : Invocation) (timeNow : Int) (sysm : Outcome ν) :
    ProxyReply ν × HeldValues ν :=
  match held.lookup (call.method, argKey call.args) timeNow expire.toInt with
  | some retval => (⟨.returned (some retval), false⟩, held)
  | none => ((SysmCacheObject.settle {} timeNow call.args sysm).1,
      held.record (call.method, argKey call.args) sysm.value timeNow)

/-- The steps of a run, with `clear`. -/
inductive ProxyEvent (ν : Type)
  | step (step : ProxyStep ν)
  | clear

/-- The event is a call, not a step of the collector. -/
def ProxyEvent.isCall : ProxyEvent ν → Bool
  | .step (.invoke _ _ _) => true
  | .step _ => false
  | .clear => true

def ProxyUse.react (use : ProxyUse ν) : ProxyEvent ν → Option (Option (ProxyReply ν) × ProxyUse ν)
  | .step step => use.step step
  | .clear => some (none, use.withCache use.proxy.cache.clear)

def HeldValues.react (expire : Int32) (held : HeldValues ν) : ProxyEvent ν → Option (ProxyReply ν) × HeldValues ν
  | .step (.invoke call timeNow sysm) =>
    (some (held.invoke expire call timeNow sysm).1, (held.invoke expire call timeNow sysm).2)
  | .step _ => (none, held)
  | .clear => (none, ExpiringMap.empty)

def SysmCacheObject.held (cacheVal : SysmCacheObject ν) : Option (RecordedValue ν) :=
  cacheVal.value.map fun value => ⟨value, cacheVal.timestamp⟩

/-- What an object or a map of the cache holds. -/
def CacheValue.held (key : Arg) : CacheValue ν → Option (RecordedValue ν)
  | .object cacheVal => if key = argKey [] then cacheVal.held else none
  | .argMap args => (args.mapped key).bind SysmCacheObject.held

def SysmProxyCache.held (proxy : SysmProxyCache ν) : HeldValues ν :=
  fun key => (proxy.cache.mapped key.1).bind (CacheValue.held key.2)

/-- No reference of the map waits on its queue. -/
def CacheValue.Quiet : CacheValue ν → Prop
  | .object _ => True
  | .argMap args => args.queue = []

/-- No reference waits on a queue. -/
structure SysmProxyCache.Quiet (proxy : SysmProxyCache ν) : Prop where
  queue : proxy.cache.queue = []
  values : proxy.cache.Holds fun _ => CacheValue.Quiet

namespace SysmCacheObject

variable {cacheVal : SysmCacheObject ν} {found : Option (SysmCacheObject ν)} {timeNow : Int} {expire : Int32}
  {args : List Arg} {sysm : Outcome ν}

/-- A value that is out of time is one that is not held. -/
theorem checked_value (found : Option (SysmCacheObject ν)) (timeNow : Int) (expire : Int32) :
    ((found.getD {}).checked timeNow expire).value = (found.bind held).bind fun recorded =>
      if timeNow - recorded.time ≤ expire.toInt then some recorded.value else none := by
  cases found with
  | none => rfl
  | some cacheVal =>
    obtain ⟨timestamp, value⟩ := cacheVal
    cases value with
    | none => rfl
    | some value =>
      simp only [Option.getD_some, checked, Option.isSome_some, true_and, Option.bind_some, held, Option.map_some]
      by_cases late : timeNow - timestamp > expire.toInt
      · rw [if_pos late, if_neg (by omega)]
      · rw [if_neg late, if_pos (by omega)]

theorem checked_of_value (found : Option (SysmCacheObject ν)) {value : ν}
    (inTime : ((found.getD {}).checked timeNow expire).value = some value) :
    (found.getD {}).checked timeNow expire = found.getD {} := by
  unfold checked at inTime ⊢
  split at inTime
  · cases inTime
  · next notLate => exact if_neg notLate

theorem settle_some {value : ν} (atValue : cacheVal.value = some value) :
    cacheVal.settle timeNow args sysm = (⟨.returned (some value), false⟩, none) := by
  unfold settle
  simp only [atValue]

theorem settle_none (atValue : cacheVal.value = none) :
    cacheVal.settle timeNow args sysm = SysmCacheObject.settle {} timeNow args sysm := by
  unfold settle
  simp only [atValue]

/-- The object that is stored, or the one with the dropped value, holds what the method has returned. -/
theorem settle_held : ((SysmCacheObject.settle {} timeNow args sysm).2.getD {}).held =
    sysm.value.map fun value => ⟨value, timeNow⟩ := by
  cases sysm with
  | returned retval => rfl
  | target exception => rfl
  | failed name message => rfl

end SysmCacheObject

/-- What an invocation finds in the cache, and what it writes back to it: the object
with a value out of time dropped, and later an object to be stored. -/
structure Visit (proxy : SysmProxyCache ν) (call : Invocation) (timeNow : Int) where
  object : Option (SysmCacheObject ν)
  written : CacheValue ν
  store : SysmCacheObject ν → CacheValue ν
  found : object.bind SysmCacheObject.held = proxy.held (call.method, argKey call.args)
  absent : proxy.cache.mapped call.method = none → object = none
  atWritten : written.held (argKey call.args) =
    (object.map fun _ => (object.getD {}).checked timeNow proxy.expire).bind SysmCacheObject.held
  written_other : ∀ key, key ≠ argKey call.args → written.held key = proxy.held (call.method, key)
  atStore : ∀ stored, (store stored).held (argKey call.args) = stored.held
  store_other : ∀ stored key, key ≠ argKey call.args →
    (store stored).held key = none ∨ (store stored).held key = proxy.held (call.method, key)
  store_quiet : proxy.Quiet → ∀ stored key, key ≠ argKey call.args → (store stored).held key = proxy.held (call.method, key)
  quiet : proxy.Quiet → written.Quiet ∧ ∀ stored, (store stored).Quiet

namespace Visit

variable {proxy : SysmProxyCache ν} {call : Invocation} {timeNow : Int} (visit : Visit proxy call timeNow) {sysm : Outcome ν}

def cacheVal : SysmCacheObject ν := (visit.object.getD {}).checked timeNow proxy.expire

def cache : ReferenceMap Method (CacheValue ν) := (proxy.cache.get call.method).2.rewrite call.method visit.written

/-- The end of `invoke` -/
def result (sysm : Outcome ν) : ProxyReply ν × SysmProxyCache ν :=
  let settled := visit.cacheVal.settle timeNow call.args sysm
  match settled.2 with
  | none => (settled.1, { proxy with cache := visit.cache })
  | some stored => (settled.1, { proxy with cache := (visit.cache.put call.method (some (visit.store stored))).2 })

theorem lookup : proxy.held.lookup (call.method, argKey call.args) timeNow proxy.expire.toInt = visit.cacheVal.value := by
  rw [cacheVal, SysmCacheObject.checked_value, visit.found]
  rfl

theorem mapped_cache (keyed : proxy.cache.Holds fun _ _ => True) (method : Method) :
    visit.cache.mapped method = if method = call.method then (proxy.cache.mapped call.method).map fun _ => visit.written
      else proxy.cache.mapped method := by
  rw [cache, ReferenceMap.mapped_rewrite (keyed.get call.method), ReferenceMap.mapped_get, ReferenceMap.mapped_get]

/-- Nothing is stored. -/
theorem held_cache (keyed : proxy.cache.Holds fun _ _ => True) : SysmProxyCache.held { proxy with cache := visit.cache } =
    proxy.held.set (call.method, argKey call.args) ((visit.object.map fun _ => visit.cacheVal).bind SysmCacheObject.held) := by
  funext key
  obtain ⟨method, arg⟩ := key
  rw [SysmProxyCache.held, visit.mapped_cache keyed]
  by_cases other : method = call.method
  · subst other
    rw [if_pos rfl]
    by_cases same : arg = argKey call.args
    · subst same
      rw [ExpiringMap.set_self]
      cases atMethod : proxy.cache.mapped call.method with
      | none =>
        rw [visit.absent atMethod]
        rfl
      | some value => exact visit.atWritten
    · rw [ExpiringMap.set_ne _ (fun equal => same (congrArg Prod.snd equal))]
      cases atMethod : proxy.cache.mapped call.method with
      | none =>
        rw [SysmProxyCache.held, atMethod]
        rfl
      | some value => exact visit.written_other arg same
  · rw [if_neg other, ExpiringMap.set_ne _ (fun equal => other (congrArg Prod.fst equal))]
    rfl

theorem cache_keyed (keyed : proxy.cache.Holds fun _ _ => True) : visit.cache.Holds fun _ _ => True :=
  (keyed.get call.method).rewrite _ trivial

theorem held_put (keyed : proxy.cache.Holds fun _ _ => True) (stored : SysmCacheObject ν) (method : Method)
    (arg : Arg) :
    SysmProxyCache.held { proxy with cache := (visit.cache.put call.method (some (visit.store stored))).2 } (method, arg) =
      if method = call.method then (visit.store stored).held arg
      else if method ∈ visit.cache.queuedKeys then none else proxy.held (method, arg) := by
  rw [SysmProxyCache.held, ReferenceMap.mapped_put (visit.cache_keyed keyed)]
  by_cases other : method = call.method
  · rw [if_pos other, if_pos other]
    rfl
  · rw [if_neg other, if_neg other, visit.mapped_cache keyed, if_neg other]
    by_cases queued : method ∈ visit.cache.queuedKeys
    · rw [if_pos queued, if_pos queued]
      rfl
    · rw [if_neg queued, if_neg queued]
      rfl

theorem held_put_fewer (keyed : proxy.cache.Holds fun _ _ => True) (stored : SysmCacheObject ν) :
    (SysmProxyCache.held { proxy with cache := (visit.cache.put call.method (some (visit.store stored))).2 }).Fewer
      (proxy.held.set (call.method, argKey call.args) stored.held) := by
  intro key
  obtain ⟨method, arg⟩ := key
  rw [visit.held_put keyed]
  by_cases own : method = call.method
  · subst own
    rw [if_pos rfl]
    by_cases same : arg = argKey call.args
    · rw [same, ExpiringMap.set_self, visit.atStore]
      exact Or.inr rfl
    · rw [ExpiringMap.set_ne _ fun equal => same (congrArg Prod.snd equal)]
      exact visit.store_other stored arg same
  · rw [if_neg own, ExpiringMap.set_ne _ fun equal => own (congrArg Prod.fst equal)]
    by_cases queued : method ∈ visit.cache.queuedKeys
    · exact Or.inl (if_pos queued)
    · exact Or.inr (if_neg queued)

theorem cache_queue (quiet : proxy.Quiet) : visit.cache.queue = [] := by
  rw [cache, ReferenceMap.rewrite_queue, (ReferenceMap.get_refs proxy.cache call.method).2]
  exact quiet.queue

theorem held_put_quiet (keyed : proxy.cache.Holds fun _ _ => True) (quiet : proxy.Quiet) (stored : SysmCacheObject ν) :
    SysmProxyCache.held { proxy with cache := (visit.cache.put call.method (some (visit.store stored))).2 } =
      proxy.held.set (call.method, argKey call.args) stored.held := by
  funext key
  obtain ⟨method, arg⟩ := key
  rw [visit.held_put keyed, ReferenceMap.queuedKeys_nil (visit.cache_queue quiet)]
  by_cases own : method = call.method
  · subst own
    rw [if_pos rfl]
    by_cases same : arg = argKey call.args
    · rw [same, ExpiringMap.set_self, visit.atStore]
    · rw [ExpiringMap.set_ne _ fun equal => same (congrArg Prod.snd equal)]
      exact visit.store_quiet quiet stored arg same
  · rw [if_neg own, if_neg List.not_mem_nil, ExpiringMap.set_ne _ fun equal => own (congrArg Prod.fst equal)]

/-- The object has a value that is in time: nothing changes. -/
theorem held_cache_some (keyed : proxy.cache.Holds fun _ _ => True) {value : ν} (inTime : visit.cacheVal.value = some value) :
    SysmProxyCache.held { proxy with cache := visit.cache } = proxy.held := by
  have same : visit.cacheVal = visit.object.getD {} := SysmCacheObject.checked_of_value visit.object inTime
  have object : visit.object.map (fun _ => visit.cacheVal) = visit.object := by
    cases atObject : visit.object with
    | none => rfl
    | some cacheVal => rw [Option.map_some, same, atObject, Option.getD_some]
  rw [visit.held_cache keyed, object, visit.found]
  exact ExpiringMap.set_eq _ _

theorem held_cache_none (keyed : proxy.cache.Holds fun _ _ => True) (noValue : visit.cacheVal.value = none) :
    SysmProxyCache.held { proxy with cache := visit.cache } = proxy.held.set (call.method, argKey call.args) none := by
  rw [visit.held_cache keyed]
  cases visit.object with
  | none => rfl
  | some cacheVal =>
    rw [Option.map_some, Option.bind_some, SysmCacheObject.held, noValue]
    rfl

/-- The invocation answers from the values held, and afterwards holds what the
map of them holds, or fewer values if references wait on a queue. -/
theorem result_spec (keyed : proxy.cache.Holds fun _ _ => True) (sysm : Outcome ν) :
    (visit.result sysm).1 = (proxy.held.invoke proxy.expire call timeNow sysm).1 ∧
      (visit.result sysm).2.held.Fewer (proxy.held.invoke proxy.expire call timeNow sysm).2 ∧
        (proxy.Quiet → (visit.result sysm).2.held = (proxy.held.invoke proxy.expire call timeNow sysm).2) := by
  have looked := visit.lookup
  cases inTime : visit.cacheVal.value with
  | some value =>
    have result : visit.result sysm = (⟨.returned (some value), false⟩, { proxy with cache := visit.cache }) := by
      simp only [result, SysmCacheObject.settle_some inTime]
    have flat : proxy.held.invoke proxy.expire call timeNow sysm = (⟨.returned (some value), false⟩, proxy.held) := by
      rw [HeldValues.invoke, looked, inTime]
    rw [result, flat, visit.held_cache_some keyed inTime]
    exact ⟨rfl, .refl _, fun _ => rfl⟩
  | none =>
    have flat : proxy.held.invoke proxy.expire call timeNow sysm = ((SysmCacheObject.settle {} timeNow call.args sysm).1,
        proxy.held.record (call.method, argKey call.args) sysm.value timeNow) := by
      rw [HeldValues.invoke, looked, inTime]
    have recorded := @SysmCacheObject.settle_held _ timeNow call.args sysm
    rw [flat]
    cases settled : (SysmCacheObject.settle {} timeNow call.args sysm).2 with
    | none =>
      have result : visit.result sysm =
          ((SysmCacheObject.settle {} timeNow call.args sysm).1, { proxy with cache := visit.cache }) := by
        simp only [result, SysmCacheObject.settle_none inTime, settled]
      have same : proxy.held.record (call.method, argKey call.args) sysm.value timeNow =
          proxy.held.set (call.method, argKey call.args) none := by
        rw [ExpiringMap.record, ← recorded, settled]
        rfl
      rw [result, visit.held_cache_none keyed inTime, same]
      exact ⟨rfl, .refl _, fun _ => rfl⟩
    | some stored =>
      have result : visit.result sysm = ((SysmCacheObject.settle {} timeNow call.args sysm).1,
          { proxy with cache := (visit.cache.put call.method (some (visit.store stored))).2 }) := by
        simp only [result, SysmCacheObject.settle_none inTime, settled]
      have same : proxy.held.record (call.method, argKey call.args) sysm.value timeNow =
          proxy.held.set (call.method, argKey call.args) stored.held := by
        rw [ExpiringMap.record, ← recorded, settled]
        rfl
      rw [result, same]
      exact ⟨rfl, visit.held_put_fewer keyed stored, fun quiet => visit.held_put_quiet keyed quiet stored⟩

end Visit

namespace SysmProxyCache

variable {proxy : SysmProxyCache ν} {call : Invocation}

/-- The cast of what the cache has for a method goes through. -/
def Casts (proxy : SysmProxyCache ν) : Prop :=
  proxy.cache.Holds fun method value =>
    (method.parameterTypes = [] ∧ ∃ cacheVal, value = .object cacheVal) ∨
      (method.parameterTypes ≠ [] ∧ ∃ args : ReferenceMap Arg (SysmCacheObject ν), value = .argMap args ∧ args.Holds fun _ _ => True)

theorem visit_plain (casts : proxy.Casts) (plain : call.args = []) (timeNow : Int) (sysm : Outcome ν) :
    ∃ visit : Visit proxy call timeNow, proxy.invoke call timeNow sysm = some (visit.result sysm) := by
  have noParameters : call.method.parameterTypes = [] := by rw [← call.typed, plain, List.map_nil]
  obtain ⟨object, cast⟩ : ∃ object : Option (SysmCacheObject ν), proxy.cache.mapped call.method = object.map .object := by
    cases atMethod : proxy.cache.mapped call.method with
    | none => exact ⟨none, rfl⟩
    | some value =>
      rcases casts.of_mapped atMethod with ⟨_, cacheVal, rfl⟩ | ⟨parameters, _⟩
      · exact ⟨some cacheVal, rfl⟩
      · exact absurd noParameters parameters
  have held (key : Arg) : proxy.held (call.method, key) = if key = argKey [] then object.bind SysmCacheObject.held else none := by
    rw [SysmProxyCache.held, cast]
    cases object with
    | none => simp
    | some cacheVal => rfl
  refine ⟨⟨object, .object ((object.getD {}).checked timeNow proxy.expire), .object, ?_, ?_, ?_, ?_, ?_, ?_, ?_, ?_⟩, ?_⟩
  · rw [held, plain, if_pos rfl]
  · intro absent
    cases object with
    | none => rfl
    | some cacheVal =>
      rw [cast] at absent
      cases absent
  · rw [plain, CacheValue.held, if_pos rfl]
    cases object with
    | none => rfl
    | some cacheVal => rfl
  · intro key other
    rw [plain] at other
    rw [held, if_neg other, CacheValue.held, if_neg other]
  · intro stored
    rw [plain, CacheValue.held, if_pos rfl]
  · intro stored key other
    rw [plain] at other
    exact Or.inl (if_neg other)
  · intro _ stored key other
    rw [plain] at other
    rw [held, if_neg other, CacheValue.held, if_neg other]
  · exact fun _ => ⟨trivial, fun _ => trivial⟩
  · cases settled : ((object.getD {}).checked timeNow proxy.expire).settle timeNow [] sysm with
    | mk reply stored =>
      simp only [invoke, plain, invokePlain, ReferenceMap.get_fst, cast, Visit.result, Visit.cacheVal, Visit.cache]
      cases object with
      | none =>
        simp only [Option.map_none, Option.bind_eq_bind, Option.bind_some, settled]
        cases stored with
        | none => rfl
        | some stored => rfl
      | some cacheVal =>
        simp only [Option.map_some, Option.bind_eq_bind, Option.bind_some, settled]
        cases stored with
        | none => rfl
        | some stored => rfl

theorem visit_args (casts : proxy.Casts) {arg : Arg} {others : List Arg} (applied : call.args = arg :: others)
    (timeNow : Int) (sysm : Outcome ν) :
    ∃ visit : Visit proxy call timeNow, proxy.invoke call timeNow sysm = some (visit.result sysm) := by
  have parameters : call.method.parameterTypes ≠ [] := by
    rw [← call.typed, applied]
    exact List.cons_ne_nil _ _
  obtain ⟨map, cast, inside⟩ : ∃ map : Option (ReferenceMap Arg (SysmCacheObject ν)),
      proxy.cache.mapped call.method = map.map .argMap ∧ (map.getD ReferenceMap.newInstance).Holds fun _ _ => True := by
    cases atMethod : proxy.cache.mapped call.method with
    | none => exact ⟨none, rfl, .newInstance⟩
    | some value =>
      rcases casts.of_mapped atMethod with ⟨noParameters, _⟩ | ⟨_, args, rfl, keyed⟩
      · exact absurd noParameters parameters
      · exact ⟨some args, rfl, keyed⟩
  have held (key : Arg) : proxy.held (call.method, key) =
      ((map.getD ReferenceMap.newInstance).mapped key).bind SysmCacheObject.held := by
    rw [SysmProxyCache.held, cast]
    cases map with
    | none =>
      rw [Option.getD_none, ReferenceMap.mapped_newInstance]
      rfl
    | some args => rfl
  have noneWaits (quiet : proxy.Quiet) : (map.getD ReferenceMap.newInstance).queue = [] := by
    cases map with
    | none => rfl
    | some args =>
      have still : CacheValue.Quiet (.argMap args) := quiet.values.of_mapped cast
      exact still
  -- the map with the object as it is after the test for its time
  let key := argKey call.args
  let object := (map.getD ReferenceMap.newInstance).mapped key
  let cacheVal := (object.getD {}).checked timeNow proxy.expire
  let argMap := ((map.getD ReferenceMap.newInstance).get key).2.rewrite key cacheVal
  have keyed : argMap.Holds fun _ _ => True := (inside.get key).rewrite _ trivial
  have mapped (other : Arg) : argMap.mapped other = if other = key then object.map fun _ => cacheVal
      else (map.getD ReferenceMap.newInstance).mapped other := by
    rw [ReferenceMap.mapped_rewrite (inside.get key), ReferenceMap.mapped_get, ReferenceMap.mapped_get]
  have queue : argMap.queue = (map.getD ReferenceMap.newInstance).queue := by
    rw [ReferenceMap.rewrite_queue, (ReferenceMap.get_refs _ key).2]
  refine ⟨⟨object, .argMap argMap, fun stored => .argMap (argMap.put key (some stored)).2, ?_, ?_, ?_, ?_, ?_, ?_, ?_, ?_⟩, ?_⟩
  · rw [held]
  · intro absent
    cases map with
    | none => exact ReferenceMap.mapped_newInstance key
    | some args =>
      rw [cast] at absent
      cases absent
  · rw [CacheValue.held, mapped, if_pos rfl]
  · intro other different
    rw [held, CacheValue.held, mapped, if_neg different]
  · intro stored
    rw [CacheValue.held, ReferenceMap.mapped_put keyed, if_pos rfl, Option.bind_some]
  · intro stored other different
    rw [CacheValue.held, ReferenceMap.mapped_put keyed, if_neg different, held, mapped, if_neg different]
    by_cases queued : other ∈ argMap.queuedKeys
    · rw [if_pos queued]
      exact Or.inl rfl
    · rw [if_neg queued]
      exact Or.inr rfl
  · intro quiet stored other different
    rw [CacheValue.held, ReferenceMap.mapped_put keyed, if_neg different, held, mapped, if_neg different,
      ReferenceMap.queuedKeys_nil (queue.trans (noneWaits quiet)), if_neg List.not_mem_nil]
  · exact fun quiet => ⟨queue.trans (noneWaits quiet), fun stored => rfl⟩
  · cases settled : cacheVal.settle timeNow call.args sysm with
    | mk reply stored =>
      have found : (((((map.getD ReferenceMap.newInstance).mapped (argKey call.args)).getD {}).checked timeNow
          proxy.expire).settle timeNow call.args sysm) = (reply, stored) := settled
      have atObject : ((object.getD {}).checked timeNow proxy.expire).settle timeNow call.args sysm = (reply, stored) := settled
      have run : proxy.invoke call timeNow sysm = proxy.invokeArgs call.method call.args timeNow sysm := by
        rw [invoke, applied]
      rw [run]
      simp only [invokeArgs, ReferenceMap.get_fst, cast, Visit.result, Visit.cacheVal, Visit.cache, atObject]
      cases map with
      | none =>
        simp only [Option.map_none, Option.bind_eq_bind, Option.bind_some, found]
        cases stored with
        | none => rfl
        | some stored => rfl
      | some args =>
        simp only [Option.map_some, Option.bind_eq_bind, Option.bind_some, found]
        cases stored with
        | none => rfl
        | some stored => rfl

theorem exists_visit (casts : proxy.Casts) (timeNow : Int) (sysm : Outcome ν) :
    ∃ visit : Visit proxy call timeNow, proxy.invoke call timeNow sysm = some (visit.result sysm) := by
  cases args : call.args with
  | nil => exact visit_plain casts args timeNow sysm
  | cons arg others => exact visit_args casts args timeNow sysm

theorem held_newInstance (expire : Int32) : (newInstance expire : SysmProxyCache ν).held = ExpiringMap.empty := by
  funext key
  show (ReferenceMap.newInstance.mapped key.1).bind _ = none
  rw [ReferenceMap.mapped_newInstance, Option.bind_none]

theorem Quiet.newInstance (expire : Int32) : (newInstance expire : SysmProxyCache ν).Quiet := ⟨rfl, .newInstance⟩

theorem Quiet.result {timeNow : Int} (quiet : proxy.Quiet) (visit : Visit proxy call timeNow) (sysm : Outcome ν) :
    (visit.result sysm).2.Quiet := by
  have written : visit.cache.Holds fun _ => CacheValue.Quiet := (quiet.values.get call.method).rewrite _ (visit.quiet quiet).1
  cases settled : (visit.cacheVal.settle timeNow call.args sysm).2 with
  | none =>
    simp only [Visit.result, settled]
    exact ⟨visit.cache_queue quiet, written⟩
  | some stored =>
    simp only [Visit.result, settled]
    exact ⟨rfl, written.put ((visit.quiet quiet).2 stored)⟩

end SysmProxyCache

namespace ProxyUse

variable {use next : ProxyUse ν} {reply : Option (ProxyReply ν)}

theorem Sound.casts (sound : use.Sound) : use.proxy.Casts := by
  refine sound.mono fun method value backed => ?_
  cases value with
  | object cacheVal => exact Or.inl ⟨backed.1, cacheVal, rfl⟩
  | argMap args => exact Or.inr ⟨backed.1, args, rfl, backed.2.mono fun _ _ _ => trivial⟩

theorem Sound.keyed (sound : use.Sound) : use.proxy.cache.Holds fun _ _ => True := sound.mono fun _ _ _ => trivial

/-- What the collector does to a reference of the cache. -/
theorem held_fewer {cache : ReferenceMap Method (CacheValue ν)}
    (loses : ∀ method, cache.mapped method = none ∨ cache.mapped method = use.proxy.cache.mapped method) :
    (use.withCache cache).proxy.held.Fewer use.proxy.held := by
  intro key
  show (cache.mapped key.1).bind _ = none ∨ (cache.mapped key.1).bind _ = _
  rcases loses key.1 with absent | same
  · rw [absent]
    exact Or.inl rfl
  · rw [same]
    exact Or.inr rfl

/-- And to one of a map of arguments. -/
theorem held_alterMap (sound : use.Sound) {ref : Nat} {cache : ReferenceMap Method (CacheValue ν)}
    {change : ReferenceMap Arg (SysmCacheObject ν) → Option (ReferenceMap Arg (SysmCacheObject ν))}
    (altered : use.proxy.cache.alter ref (CacheValue.alterMap change) = some cache)
    (loses : ∀ (args args' : ReferenceMap Arg (SysmCacheObject ν)) key, (args.Holds fun _ _ => True) → change args = some args' →
      args'.mapped key = none ∨ args'.mapped key = args.mapped key) :
    (use.withCache cache).proxy.held.Fewer use.proxy.held := by
  intro key
  show (cache.mapped key.1).bind _ = none ∨ (cache.mapped key.1).bind _ = _
  rcases ReferenceMap.mapped_alter sound altered key.1 with same | ⟨value, new, atKey, changed, atNew⟩
  · rw [same]
    exact Or.inr rfl
  · rw [SysmProxyCache.held, atKey, atNew, Option.bind_some, Option.bind_some]
    cases value with
    | object cacheVal => cases changed
    | argMap args =>
      obtain ⟨args', change, same⟩ := Option.map_eq_some_iff.mp changed
      cases same
      have keyed : args.Holds fun _ _ => True := by
        have backed : CacheValue.Backed use.asked key.1 (.argMap args) := ReferenceMap.Holds.of_mapped sound atKey
        exact backed.2.mono fun _ _ _ => trivial
      rcases loses args args' key.2 keyed change with absent | same
      · rw [CacheValue.held, absent]
        exact Or.inl rfl
      · rw [CacheValue.held, same]
        exact Or.inr rfl

/-- A step answers as the map of the values held, and loses at most some of them. -/
theorem react_spec {event : ProxyEvent ν} (sound : use.Sound) (run : use.react event = some (reply, next)) :
    next.Sound ∧ next.proxy.expire = use.proxy.expire ∧ reply = (use.proxy.held.react use.proxy.expire event).1 ∧
      next.proxy.held.Fewer (use.proxy.held.react use.proxy.expire event).2 := by
  cases event with
  | step step =>
    obtain ⟨kept, expire⟩ := sound.step run
    refine ⟨kept, expire, ?_⟩
    cases step with
    | invoke call timeNow sysm =>
      obtain ⟨visit, invoked⟩ := @SysmProxyCache.exists_visit _ _ call sound.casts timeNow sysm
      obtain ⟨answer, fewer, _⟩ := visit.result_spec sound.keyed sysm
      simp only [ProxyUse.react, ProxyUse.step, invoked, Option.bind_eq_bind, Option.bind_some] at run
      cases run
      exact ⟨congrArg some answer, fewer⟩
    | collect ref =>
      obtain ⟨cache, collected, run⟩ := Option.map_eq_some_iff.mp run
      cases run
      exact ⟨rfl, held_fewer fun method => ReferenceMap.mapped_collect sound collected method⟩
    | enqueue ref =>
      obtain ⟨cache, enqueued, run⟩ := Option.map_eq_some_iff.mp run
      cases run
      exact ⟨rfl, held_fewer fun method => ReferenceMap.mapped_enqueue sound enqueued method⟩
    | collectArg ref argRef =>
      obtain ⟨cache, altered, run⟩ := Option.map_eq_some_iff.mp run
      cases run
      exact ⟨rfl, held_alterMap sound altered fun _ _ key keyed collected => ReferenceMap.mapped_collect keyed collected key⟩
    | enqueueArg ref argRef =>
      obtain ⟨cache, altered, run⟩ := Option.map_eq_some_iff.mp run
      cases run
      exact ⟨rfl, held_alterMap sound altered fun _ _ key keyed enqueued => ReferenceMap.mapped_enqueue keyed enqueued key⟩
  | clear =>
    cases run
    refine ⟨ReferenceMap.Holds.clear sound, rfl, rfl, fun key => Or.inl ?_⟩
    show (use.proxy.cache.clear.mapped key.1).bind _ = none
    rw [ReferenceMap.mapped_clear, Option.bind_none]

/-- A call does not lose any of them while no reference waits on a queue. -/
theorem react_quiet {event : ProxyEvent ν} (sound : use.Sound) (quiet : use.proxy.Quiet) (isCall : event.isCall = true)
    (run : use.react event = some (reply, next)) :
    next.proxy.Quiet ∧ next.proxy.held = (use.proxy.held.react use.proxy.expire event).2 := by
  cases event with
  | step step =>
    cases step with
    | invoke call timeNow sysm =>
      obtain ⟨visit, invoked⟩ := @SysmProxyCache.exists_visit _ _ call sound.casts timeNow sysm
      simp only [ProxyUse.react, ProxyUse.step, invoked, Option.bind_eq_bind, Option.bind_some] at run
      cases run
      exact ⟨quiet.result visit sysm, (visit.result_spec sound.keyed sysm).2.2 quiet⟩
    | collect | enqueue | collectArg | enqueueArg => cases isCall
  | clear =>
    cases run
    refine ⟨⟨rfl, quiet.values.clear⟩, ?_⟩
    funext key
    show (use.proxy.cache.clear.mapped key.1).bind _ = none
    rw [ReferenceMap.mapped_clear, Option.bind_none]

end ProxyUse

open ExpiringMap in
/-- The proxy is a map of values that it holds for a while: every run of calls of
its methods and of `clear` is answered as by that map, whatever the collector does
in between, if some of the values are forgotten at each step. No value is forgotten
before the first step of the collector. And no call is left without a reply. -/
theorem proxyCache_refines {expire : Int32} {events : List (ProxyEvent ν)} {answers : List (Option (ProxyReply ν))}
    {final : ProxyUse ν} (ran : Machine.run ProxyUse.react (.start expire) events = some (answers, final)) :
    (∃ forgotten : List (Set (Method × Arg)), forgotten.length = events.length ∧
      Machine.run (forgetting (HeldValues.react expire)) ExpiringMap.empty (events.zip forgotten) =
        some (answers, final.proxy.held) ∧
      ∀ n, (∀ event ∈ events.take (n + 1), event.isCall = true) → ∀ lost ∈ forgotten[n]?, lost = ∅) ∧
    ∀ call timeNow sysm, ∃ reply next, final.react (.step (.invoke call timeNow sysm)) = some (some reply, next) := by
  have start : ProxyUse.Sound (.start expire : ProxyUse ν) ∧ (ProxyUse.start expire : ProxyUse ν).proxy.expire = expire :=
    ⟨.newInstance, rfl⟩
  constructor
  · obtain ⟨forgotten, length, run, calmly⟩ :=
      @exists_forgotten _ _ _ _ _ (HeldValues.react expire) ProxyUse.react (fun use => use.proxy.held)
        (fun use => use.Sound ∧ use.proxy.expire = expire) (fun use => use.proxy.Quiet) (fun event => event.isCall = true)
        (fun use event reply next inv step => by
          obtain ⟨kept, same, answer, fewer⟩ := ProxyUse.react_spec inv.1 step
          rw [inv.2] at same answer fewer
          exact ⟨⟨kept, same⟩, answer, fewer⟩)
        (fun use event reply next inv quiet isCall step => by
          obtain ⟨still, same⟩ := ProxyUse.react_quiet inv.1 quiet isCall step
          rw [inv.2] at same
          exact ⟨still, same⟩)
        events answers _ final start ran
    rw [show (ProxyUse.start expire : ProxyUse ν).proxy.held = ExpiringMap.empty from SysmProxyCache.held_newInstance expire]
      at run
    exact ⟨forgotten, length, run, calmly (SysmProxyCache.Quiet.newInstance expire)⟩
  · intro call timeNow sysm
    have sound : final.Sound := Machine.run_invariant
      (fun use event reply next inv step => (ProxyUse.react_spec inv step).1) start.1 ran
    obtain ⟨visit, invoked⟩ := @SysmProxyCache.exists_visit _ _ call sound.casts timeNow sysm
    refine ⟨(visit.result sysm).1, ⟨(visit.result sysm).2, (visit.result sysm).1.askedAfter call timeNow sysm final.asked⟩, ?_⟩
    simp only [ProxyUse.react, ProxyUse.step, invoked, Option.bind_eq_bind, Option.bind_some]
    rfl

/-- A port that is asked for twice, and once more after the collector has taken its value. -/
def portThrice : List (ProxyEvent Nat) :=
  [.step (.invoke (getProcessPort 16 22) 0 (.returned (some 700))), .step (.invoke (getProcessPort 16 22) 50 (.returned (some 800))),
    .step (.collectArg 0 0), .step (.invoke (getProcessPort 16 22) 60 (.returned (some 800)))]

theorem proxyCache_refines_portThrice : ∃ answers final,
    Machine.run ProxyUse.react (.start 100) portThrice = some (answers, final) ∧
      (∃ forgotten : List (Set (Method × Arg)), forgotten.length = portThrice.length ∧
        Machine.run (ExpiringMap.forgetting (HeldValues.react 100)) ExpiringMap.empty (portThrice.zip forgotten) =
          some (answers, final.proxy.held) ∧
        ∀ n, (∀ event ∈ portThrice.take (n + 1), event.isCall = true) → ∀ lost ∈ forgotten[n]?, lost = ∅) ∧
      ∀ call timeNow sysm, ∃ reply next, final.react (.step (.invoke call timeNow sysm)) = some (some reply, next) := by
  have runs : (Machine.run ProxyUse.react (.start 100) portThrice).isSome = true := by decide +kernel
  obtain ⟨⟨answers, final⟩, ran⟩ := Option.isSome_iff_exists.mp runs
  exact ⟨answers, final, ran, proxyCache_refines ran⟩

end Sysm

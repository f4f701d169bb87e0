import Mathlib.Data.Set.Basic
import Sysm.ProxyCache

namespace Sysm

variable {ν : Type}

/-- A value that the method returned when the cache asked for it. -/
structure AskedValue (ν : Type) where
  call : Invocation
  time : Int
  value : Option ν

/-- Invocations, and what the collector does to the references of the cache and
to those of a map that is the value of one of them. -/
inductive ProxyStep (ν : Type)
  | invoke (call : Invocation) (timeNow : Int) (sysm : Outcome ν)
  | collect (ref : Nat)
  | enqueue (ref : Nat)
  | collectArg (ref argRef : Nat)
  | enqueueArg (ref argRef : Nat)

/-- The cache, and the values that have been asked for so far. -/
structure ProxyUse (ν : Type) where
  proxy : SysmProxyCache ν
  asked : List (AskedValue ν)

/-- The value that the method returns if it is invoked is a value asked for. -/
def ProxyReply.askedAfter (reply : ProxyReply ν) (call : Invocation) (timeNow : Int) (sysm : Outcome ν)
    (asked : List (AskedValue ν)) : List (AskedValue ν) :=
  match reply.asked, sysm with
  | true, .returned value => ⟨call, timeNow, value⟩ :: asked
  | _, _ => asked

namespace CacheValue

/-- What the collector does to a map in the cache. -/
def alterMap (change : ReferenceMap Arg (SysmCacheObject ν) → Option (ReferenceMap Arg (SysmCacheObject ν))) :
    CacheValue ν → Option (CacheValue ν)
  | .object _ => none
  | .argMap args => (change args).map .argMap

end CacheValue

namespace ProxyUse

variable (use : ProxyUse ν)

def start (expire : Int32) : ProxyUse ν := ⟨SysmProxyCache.newInstance expire, []⟩

def withCache (cache : ReferenceMap Method (CacheValue ν)) : ProxyUse ν := { use with proxy := { use.proxy with cache } }

def step : ProxyStep ν → Option (Option (ProxyReply ν) × ProxyUse ν)
  | .invoke call timeNow sysm => do
    let (reply, proxy) ← use.proxy.invoke call timeNow sysm
    return (some reply, ⟨proxy, reply.askedAfter call timeNow sysm use.asked⟩)
  | .collect ref => (use.proxy.cache.collect ref).map fun cache => (none, use.withCache cache)
  | .enqueue ref => (use.proxy.cache.enqueue ref).map fun cache => (none, use.withCache cache)
  | .collectArg ref argRef =>
    (use.proxy.cache.alter ref (CacheValue.alterMap (·.collect argRef))).map fun cache => (none, use.withCache cache)
  | .enqueueArg ref argRef =>
    (use.proxy.cache.alter ref (CacheValue.alterMap (·.enqueue argRef))).map fun cache => (none, use.withCache cache)

end ProxyUse

/-- The time at which an invocation starts. -/
def ProxyStep.time? : ProxyStep ν → Option Int
  | .invoke _ timeNow _ => some timeNow
  | _ => none

/-- In a run of invocations the cache returns what the method returns, or has returned
for equal arguments when it was invoked at most `expire` milliseconds earlier. -/
def AnswersSoundly (expire : Int32) (steps : List (ProxyStep ν)) : Prop :=
  ∀ before call timeNow sysm after, steps = before ++ .invoke call timeNow sysm :: after →
    ∀ answers use, Machine.run ProxyUse.step (.start expire) before = some (answers, use) →
      ∃ reply next, use.step (.invoke call timeNow sysm) = some (some reply, next) ∧
        ∀ value, reply.result = .returned value →
          (reply.asked = true ∧ sysm = .returned value) ∨
            ∃ entry ∈ use.asked, entry.call.Same call ∧ entry.value = value ∧ timeNow - entry.time ≤ expire.toInt

/-- The cache is sound for clients that make these calls, whatever the methods
return and the collector does, if the clock does not go back. -/
def SoundFor (ν : Type) (calls : Set Invocation) (expire : Int32) : Prop :=
  ∀ steps : List (ProxyStep ν), (∀ call timeNow sysm, .invoke call timeNow sysm ∈ steps → call ∈ calls) →
    (steps.filterMap ProxyStep.time?).Pairwise (· ≤ ·) → AnswersSoundly expire steps

/-- No two of the calls have one method and one key but different arguments. -/
def KeysTellApart (calls : Set Invocation) : Prop :=
  ∀ first ∈ calls, ∀ second ∈ calls, first.method = second.method → argKey first.args = argKey second.args →
    first.Same second

/-- The value of an object is one that was asked for with this method and key. -/
def SysmCacheObject.Backed (asked : List (AskedValue ν)) (method : Method) (key : Arg) (cacheVal : SysmCacheObject ν) : Prop :=
  ∀ value, cacheVal.value = some value → ∃ entry ∈ asked, entry.call.method = method ∧
    argKey entry.call.args = key ∧ entry.value = some value ∧ entry.time = cacheVal.timestamp

def CacheValue.Backed (asked : List (AskedValue ν)) (method : Method) : CacheValue ν → Prop
  | .object cacheVal => method.parameterTypes = [] ∧ cacheVal.Backed asked method (argKey [])
  | .argMap args => method.parameterTypes ≠ [] ∧ args.Holds (SysmCacheObject.Backed asked method)

variable {asked later : List (AskedValue ν)} {method : Method} {key : Arg} {cacheVal : SysmCacheObject ν}

theorem SysmCacheObject.Backed.mono (backed : cacheVal.Backed asked method key)
    (more : ∀ entry ∈ asked, entry ∈ later) : cacheVal.Backed later method key := by
  intro value atValue
  obtain ⟨entry, member, own⟩ := backed value atValue
  exact ⟨entry, more entry member, own⟩

theorem CacheValue.Backed.mono {value : CacheValue ν} (backed : value.Backed asked method)
    (more : ∀ entry ∈ asked, entry ∈ later) : value.Backed later method := by
  cases value with
  | object cacheVal => exact ⟨backed.1, backed.2.mono more⟩
  | argMap argMap => exact ⟨backed.1, backed.2.mono fun _ _ old => old.mono more⟩

theorem ProxyReply.mem_askedAfter (reply : ProxyReply ν) (call : Invocation) (timeNow : Int) (sysm : Outcome ν) :
    ∀ entry ∈ asked, entry ∈ reply.askedAfter call timeNow sysm asked := by
  intro entry member
  unfold ProxyReply.askedAfter
  split
  · exact List.mem_cons_of_mem _ member
  · exact member

/-- The object that `invoke` goes on with is the one found, or has no value. -/
theorem SysmCacheObject.checked_backed {found : Option (SysmCacheObject ν)} (timeNow : Int) (expire : Int32)
    (backed : ∀ cacheVal, found = some cacheVal → cacheVal.Backed asked method key) :
    ((found.getD {}).checked timeNow expire).Backed asked method key := by
  have inTime : (found.getD {}).Backed asked method key := by
    cases found with
    | none =>
      intro value atValue
      cases atValue
    | some cacheVal => exact backed cacheVal rfl
  unfold SysmCacheObject.checked
  split
  · intro value atValue
    cases atValue
  · exact inTime

theorem SysmCacheObject.checked_inTime {timeNow : Int} {expire : Int32} {value : ν}
    (atValue : (cacheVal.checked timeNow expire).value = some value) :
    timeNow - (cacheVal.checked timeNow expire).timestamp ≤ expire.toInt := by
  unfold SysmCacheObject.checked at atValue ⊢
  split
  · next late =>
      rw [if_pos late] at atValue
      cases atValue
  · next notLate =>
      rw [if_neg notLate] at atValue
      by_contra late
      exact notLate ⟨by rw [atValue]; rfl, by omega⟩

/-- A value returned is that of the method now, or one asked for with its key in time. -/
def ProxyReply.Explained (reply : ProxyReply ν) (asked : List (AskedValue ν)) (call : Invocation) (timeNow : Int)
    (sysm : Outcome ν) (expire : Int32) : Prop :=
  ∀ value, reply.result = .returned value →
    (reply.asked = true ∧ sysm = .returned value) ∨
      ∃ entry ∈ asked, entry.call.method = call.method ∧ argKey entry.call.args = argKey call.args ∧
        entry.value = value ∧ timeNow - entry.time ≤ expire.toInt

variable {call : Invocation} {timeNow : Int} {sysm : Outcome ν} {expire : Int32}

theorem SysmCacheObject.settle_explained (backed : cacheVal.Backed asked call.method (argKey call.args))
    (inTime : ∀ value, cacheVal.value = some value → timeNow - cacheVal.timestamp ≤ expire.toInt) :
    (cacheVal.settle timeNow call.args sysm).1.Explained asked call timeNow sysm expire := by
  intro value returned
  unfold SysmCacheObject.settle at returned ⊢
  cases atValue : cacheVal.value with
  | some retval =>
    simp only [atValue] at returned
    cases returned
    obtain ⟨entry, member, ownMethod, ownKey, ownValue, ownTime⟩ := backed retval atValue
    have young := inTime retval atValue
    exact Or.inr ⟨entry, member, ownMethod, ownKey, ownValue, by rw [ownTime]; exact young⟩
  | none =>
    simp only [atValue] at returned ⊢
    cases sysm with
    | returned retval =>
      cases returned
      exact Or.inl ⟨rfl, rfl⟩
    | target exception => cases returned
    | failed name message => cases returned

theorem SysmCacheObject.settle_stored {stored : SysmCacheObject ν}
    (stores : (cacheVal.settle timeNow call.args sysm).2 = some stored) :
    stored.Backed ((cacheVal.settle timeNow call.args sysm).1.askedAfter call timeNow sysm asked) call.method
      (argKey call.args) := by
  unfold SysmCacheObject.settle at stores ⊢
  cases atValue : cacheVal.value with
  | some retval =>
    simp only [atValue] at stores
    cases stores
  | none =>
    simp only [atValue] at stores ⊢
    cases sysm with
    | returned retval =>
      cases stores
      intro value same
      exact ⟨⟨call, timeNow, retval⟩, List.mem_cons_self .., rfl, rfl, same, rfl⟩
    | target exception => cases stores
    | failed name message => cases stores

/-- Every value in the cache was asked for with its method and key. -/
def ProxyUse.Sound (use : ProxyUse ν) : Prop := use.proxy.cache.Holds (CacheValue.Backed use.asked)

/-- What an invocation comes to. -/
def ProxyUse.Invokes (use : ProxyUse ν) (call : Invocation) (timeNow : Int) (sysm : Outcome ν) : Prop :=
  ∃ reply proxy, use.proxy.invoke call timeNow sysm = some (reply, proxy) ∧ proxy.expire = use.proxy.expire ∧
    ProxyUse.Sound ⟨proxy, reply.askedAfter call timeNow sysm use.asked⟩ ∧
      reply.Explained use.asked call timeNow sysm use.proxy.expire

variable {use next : ProxyUse ν}

/-- The end of `invoke`: the cache is kept as it is, or the object is stored. -/
theorem ProxyUse.Invokes.of_settle {cache : ReferenceMap Method (CacheValue ν)} (store : SysmCacheObject ν → CacheValue ν)
    (holds : cache.Holds (CacheValue.Backed use.asked)) (backed : cacheVal.Backed use.asked call.method (argKey call.args))
    (inTime : ∀ value, cacheVal.value = some value → timeNow - cacheVal.timestamp ≤ use.proxy.expire.toInt)
    (stores : ∀ later stored, (∀ entry ∈ use.asked, entry ∈ later) →
      stored.Backed later call.method (argKey call.args) → (store stored).Backed later call.method)
    (run : use.proxy.invoke call timeNow sysm =
      match cacheVal.settle timeNow call.args sysm with
      | (reply, none) => some (reply, { use.proxy with cache })
      | (reply, some stored) =>
        some (reply, { use.proxy with cache := (cache.put call.method (some (store stored))).2 })) :
    use.Invokes call timeNow sysm := by
  have explained := @SysmCacheObject.settle_explained ν use.asked cacheVal call timeNow sysm use.proxy.expire backed inTime
  have kept (stored : SysmCacheObject ν) := @SysmCacheObject.settle_stored ν use.asked cacheVal call timeNow sysm stored
  cases settled : cacheVal.settle timeNow call.args sysm with
  | mk reply stored =>
    rw [settled] at run explained kept
    have more := @ProxyReply.mem_askedAfter ν use.asked reply call timeNow sysm
    have holds' : cache.Holds (CacheValue.Backed (reply.askedAfter call timeNow sysm use.asked)) :=
      holds.mono fun _ _ old => old.mono more
    cases stored with
    | none => exact ⟨reply, _, run, rfl, holds', explained⟩
    | some stored =>
      have new : (store stored).Backed (reply.askedAfter call timeNow sysm use.asked) call.method :=
        stores _ stored more (kept stored rfl)
      exact ⟨reply, _, run, rfl, holds'.put new, explained⟩

/-- What the cache has for a method is backed, and so is the rest of it. -/
theorem ProxyUse.Sound.get (sound : use.Sound) {method : Method} {found : Option (CacheValue ν)}
    {cache : ReferenceMap Method (CacheValue ν)} (got : use.proxy.cache.get method = (found, cache)) :
    cache.Holds (CacheValue.Backed use.asked) ∧ ∀ value, found = some value → value.Backed use.asked method := by
  constructor
  · have kept := ReferenceMap.Holds.get sound method
    rwa [got] at kept
  · intro value atKey
    refine ReferenceMap.Holds.get_value sound method ?_
    rw [got]
    exact atKey

theorem ProxyUse.Sound.invokePlain (sound : use.Sound) (plain : call.args = []) : use.Invokes call timeNow sysm := by
  have noParameters : call.method.parameterTypes = [] := by rw [← call.typed, plain, List.map_nil]
  cases got : use.proxy.cache.get call.method with
  | mk found cache =>
    obtain ⟨holds, foundBacked⟩ := sound.get got
    have goesOn (object : Option (SysmCacheObject ν)) (cast : found = object.map .object) :
        use.Invokes call timeNow sysm := by
      have backed : ((object.getD {}).checked timeNow use.proxy.expire).Backed use.asked call.method (argKey call.args) := by
        refine SysmCacheObject.checked_backed timeNow use.proxy.expire ?_
        intro cacheVal same
        rw [plain]
        exact (foundBacked (.object cacheVal) (by rw [cast, same]; rfl)).2
      have rewritten := @ReferenceMap.Holds.rewrite _ _ _ _ call.method _ holds
        (.object ((object.getD {}).checked timeNow use.proxy.expire)) ⟨noParameters, by rwa [plain] at backed⟩
      refine .of_settle .object rewritten backed (fun _ => SysmCacheObject.checked_inTime) ?_ ?_
      · intro later stored _ new
        exact ⟨noParameters, by rwa [plain] at new⟩
      · simp only [SysmProxyCache.invoke, plain, SysmProxyCache.invokePlain, got]
        subst cast
        cases object with
        | none => rfl
        | some cacheVal => rfl
    cases found with
    | none => exact goesOn none rfl
    | some value =>
      cases value with
      | object cacheVal => exact goesOn (some cacheVal) rfl
      | argMap args => exact absurd noParameters (foundBacked _ rfl).1

theorem ProxyUse.Sound.invokeArgs (sound : use.Sound) {arg : Arg} {args : List Arg} (applied : call.args = arg :: args) :
    use.Invokes call timeNow sysm := by
  have parameters : call.method.parameterTypes ≠ [] := by
    rw [← call.typed, applied]
    exact List.cons_ne_nil _ _
  cases got : use.proxy.cache.get call.method with
  | mk found cache =>
    obtain ⟨holds, foundBacked⟩ := sound.get got
    have goesOn (map : Option (ReferenceMap Arg (SysmCacheObject ν))) (cast : found = map.map .argMap) :
        use.Invokes call timeNow sysm := by
      have argHolds : (map.getD ReferenceMap.newInstance).Holds (SysmCacheObject.Backed use.asked call.method) := by
        cases map with
        | none => exact .newInstance
        | some args => exact (foundBacked (.argMap args) cast).2
      cases gotArg : (map.getD ReferenceMap.newInstance).get (argKey call.args) with
      | mk object argMap =>
        have kept : argMap.Holds (SysmCacheObject.Backed use.asked call.method) := by
          have kept := argHolds.get (argKey call.args)
          rwa [gotArg] at kept
        have backed : ((object.getD {}).checked timeNow use.proxy.expire).Backed use.asked call.method (argKey call.args) := by
          refine SysmCacheObject.checked_backed timeNow use.proxy.expire ?_
          intro cacheVal same
          refine argHolds.get_value _ ?_
          rw [gotArg]
          exact same
        have written := kept.rewrite _ backed
        have rewritten := @ReferenceMap.Holds.rewrite _ _ _ _ call.method _ holds (.argMap (argMap.rewrite (argKey call.args)
          ((object.getD {}).checked timeNow use.proxy.expire))) ⟨parameters, written⟩
        refine .of_settle (fun stored => .argMap ((argMap.rewrite (argKey call.args)
          ((object.getD {}).checked timeNow use.proxy.expire)).put (argKey call.args) (some stored)).2)
          rewritten backed (fun _ => SysmCacheObject.checked_inTime) ?_ ?_
        · intro later stored more new
          have laterWritten := written.mono fun _ _ old => old.mono more
          exact ⟨parameters, laterWritten.put new⟩
        · simp only [SysmProxyCache.invoke, applied, SysmProxyCache.invokeArgs, got]
          rw [applied] at gotArg
          subst cast
          cases map with
          | none =>
            rw [Option.getD_none] at gotArg
            simp only [Option.map_none, Option.bind_eq_bind, Option.bind_some, Option.getD_none, gotArg]
            rfl
          | some args =>
            rw [Option.getD_some] at gotArg
            simp only [Option.map_some, Option.bind_eq_bind, Option.bind_some, Option.getD_some, gotArg]
            rfl
    cases found with
    | none => exact goesOn none rfl
    | some value =>
      cases value with
      | object cacheVal => exact absurd (foundBacked _ rfl).1 parameters
      | argMap args => exact goesOn (some args) rfl

theorem ProxyUse.Sound.invokes (sound : use.Sound) (call : Invocation) (timeNow : Int) (sysm : Outcome ν) :
    use.Invokes call timeNow sysm := by
  cases args : call.args with
  | nil => exact sound.invokePlain args
  | cons arg others => exact sound.invokeArgs args

/-- A change of the maps of arguments that keeps what they hold. -/
theorem ProxyUse.Sound.alterMap {ref : Nat} {cache : ReferenceMap Method (CacheValue ν)}
    {change : ReferenceMap Arg (SysmCacheObject ν) → Option (ReferenceMap Arg (SysmCacheObject ν))} (sound : use.Sound)
    (altered : use.proxy.cache.alter ref (CacheValue.alterMap change) = some cache)
    (keeps : ∀ (args args' : ReferenceMap Arg (SysmCacheObject ν)) (P : Arg → SysmCacheObject ν → Prop),
      change args = some args' → args.Holds P → args'.Holds P) :
    (use.withCache cache).Sound := by
  refine ReferenceMap.Holds.alter sound altered ?_
  intro soft value new _ backed changed
  cases value with
  | object cacheVal => cases changed
  | argMap args =>
    obtain ⟨args', change, changed⟩ := Option.map_eq_some_iff.mp changed
    cases changed
    exact ⟨backed.1, keeps args args' _ change backed.2⟩

theorem ProxyUse.Sound.step {step : ProxyStep ν} {reply : Option (ProxyReply ν)} (sound : use.Sound)
    (run : use.step step = some (reply, next)) : next.Sound ∧ next.proxy.expire = use.proxy.expire := by
  cases step with
  | invoke call timeNow sysm =>
    obtain ⟨answer, proxy, invoked, same, kept, _⟩ := sound.invokes call timeNow sysm
    simp only [ProxyUse.step, invoked, Option.bind_eq_bind, Option.bind_some] at run
    cases run
    exact ⟨kept, same⟩
  | collect ref =>
    obtain ⟨cache, collected, run⟩ := Option.map_eq_some_iff.mp run
    cases run
    exact ⟨ReferenceMap.Holds.collect sound collected, rfl⟩
  | enqueue ref =>
    obtain ⟨cache, enqueued, run⟩ := Option.map_eq_some_iff.mp run
    cases run
    exact ⟨ReferenceMap.Holds.enqueue sound enqueued, rfl⟩
  | collectArg ref argRef =>
    obtain ⟨cache, altered, run⟩ := Option.map_eq_some_iff.mp run
    cases run
    exact ⟨sound.alterMap altered fun _ _ _ collected backed => backed.collect collected, rfl⟩
  | enqueueArg ref argRef =>
    obtain ⟨cache, altered, run⟩ := Option.map_eq_some_iff.mp run
    cases run
    exact ⟨sound.alterMap altered fun _ _ _ enqueued backed => backed.enqueue enqueued, rfl⟩

/-- The values asked for in a step are those of its invocation. -/
theorem ProxyUse.asked_step {step : ProxyStep ν} {reply : Option (ProxyReply ν)}
    (run : use.step step = some (reply, next)) (entry : AskedValue ν) (member : entry ∈ next.asked) :
    entry ∈ use.asked ∨ ∃ sysm, step = .invoke entry.call entry.time sysm := by
  cases step with
  | invoke call timeNow sysm =>
    obtain ⟨⟨answer, proxy⟩, _, run⟩ := Option.bind_eq_some_iff.mp run
    cases run
    simp only [ProxyReply.askedAfter] at member
    split at member
    · rcases List.mem_cons.mp member with rfl | old
      · exact Or.inr ⟨_, rfl⟩
      · exact Or.inl old
    · exact Or.inl member
  | collect ref =>
    obtain ⟨cache, _, run⟩ := Option.map_eq_some_iff.mp run
    cases run
    exact Or.inl member
  | enqueue ref =>
    obtain ⟨cache, _, run⟩ := Option.map_eq_some_iff.mp run
    cases run
    exact Or.inl member
  | collectArg ref argRef =>
    obtain ⟨cache, _, run⟩ := Option.map_eq_some_iff.mp run
    cases run
    exact Or.inl member
  | enqueueArg ref argRef =>
    obtain ⟨cache, _, run⟩ := Option.map_eq_some_iff.mp run
    cases run
    exact Or.inl member

theorem ProxyUse.sound_run {steps : List (ProxyStep ν)} {replies : List (Option (ProxyReply ν))}
    (run : Machine.run ProxyUse.step (.start expire) steps = some (replies, use)) :
    use.Sound ∧ use.proxy.expire = expire ∧
      ∀ entry ∈ use.asked, ∃ sysm, .invoke entry.call entry.time sysm ∈ steps := by
  induction steps using List.reverseRecOn generalizing replies use with
  | nil =>
    cases run
    exact ⟨.newInstance, rfl, by simp [ProxyUse.start]⟩
  | append_singleton steps step ih =>
    obtain ⟨before, middle, reply, ran, stepped, _⟩ := Machine.run_snoc_iff.mp run
    obtain ⟨sound, same, recorded⟩ := ih ran
    obtain ⟨soundNext, sameNext⟩ := sound.step stepped
    refine ⟨soundNext, sameNext.trans same, ?_⟩
    intro entry member
    rcases ProxyUse.asked_step stepped entry member with old | ⟨sysm, rfl⟩
    · obtain ⟨sysm, inSteps⟩ := recorded entry old
      exact ⟨sysm, List.mem_append_left _ inSteps⟩
    · exact ⟨sysm, by simp⟩

/-- The cache after one invocation of a method that returns a value. -/
def SysmProxyCache.once (expire : Int32) (method : Method) (args : List Arg) (timeNow : Int) (value : ν) :
    SysmProxyCache ν :=
  ⟨⟨AList.insert method 0 ∅, [⟨method, some (.argMap ⟨AList.insert (argKey args) 0 ∅,
    [⟨argKey args, some ⟨timeNow, some value⟩, .no⟩], []⟩), .no⟩], []⟩, expire⟩

theorem SysmProxyCache.invokeArgs_new (method : Method) (args : List Arg) (timeNow : Int) (value : ν) :
    (newInstance expire).invokeArgs method args timeNow (.returned (some value)) =
      some (⟨.returned (some value), true⟩, once expire method args timeNow value) := rfl

/-- The value is found again by its key. -/
theorem SysmProxyCache.invokeArgs_once {first second : List Arg} (sameKey : argKey first = argKey second)
    (inTime : 0 ≤ expire.toInt) (method : Method) (timeNow : Int) (value : ν) (sysm : Outcome ν) :
    ∃ proxy, (once expire method first timeNow value).invokeArgs method second timeNow sysm =
      some (⟨.returned (some value), false⟩, proxy) := by
  let argMap : ReferenceMap Arg (SysmCacheObject ν) :=
    ⟨AList.insert (argKey second) 0 ∅, [⟨argKey second, some ⟨timeNow, some value⟩, .no⟩], []⟩
  have atMethod : (once expire method first timeNow value).cache.mapped method = some (.argMap argMap) := by
    simp only [ReferenceMap.mapped, once, sameKey]
    rw [AList.lookup_insert]
    rfl
  have atKey : argMap.mapped (argKey second) = some ⟨timeNow, some value⟩ := by
    simp only [ReferenceMap.mapped, argMap]
    rw [AList.lookup_insert]
    rfl
  have young : ¬ timeNow - timeNow > expire.toInt := by omega
  have kept : (once expire method first timeNow value).expire = expire := rfl
  simp only [invokeArgs, ReferenceMap.get_of_mapped atMethod, Option.bind_eq_bind, Option.bind_some, Option.getD_some,
    ReferenceMap.get_of_mapped atKey, SysmCacheObject.checked, SysmCacheObject.settle, kept, young, and_false, if_false]
  exact ⟨_, rfl⟩

theorem Invocation.args_eq_nil {first second : Invocation} (sameMethod : first.method = second.method)
    (plain : first.args = []) : second.args = [] := by
  have types : second.args.map Arg.type = first.args.map Arg.type := by rw [second.typed, first.typed, sameMethod]
  rw [plain] at types
  exact List.map_eq_nil_iff.mp types

/-- The first invocation of a method with arguments asks for a value. -/
theorem ProxyUse.step_first {first : Invocation} (args : first.args ≠ []) (value : ν) :
    ProxyUse.step (.start expire) (.invoke first 0 (.returned (some value))) =
      some (some ⟨.returned (some value), true⟩,
        ⟨SysmProxyCache.once expire first.method first.args 0 value, [⟨first, 0, some value⟩]⟩) := by
  obtain ⟨arg, others, same⟩ := List.exists_cons_of_ne_nil args
  simp only [ProxyUse.step, ProxyUse.start, SysmProxyCache.invoke, same, SysmProxyCache.invokeArgs_new,
    Option.bind_eq_bind, Option.bind_some]
  rfl

/-- An invocation with the key of the first one returns the value of the first. -/
theorem ProxyUse.step_second {first second : Invocation} (sameMethod : first.method = second.method)
    (sameKey : argKey first.args = argKey second.args) (args : second.args ≠ []) (keeps : 0 ≤ expire.toInt)
    (value : ν) (sysm : Outcome ν) (asked : List (AskedValue ν)) :
    ∃ proxy, ProxyUse.step ⟨SysmProxyCache.once expire first.method first.args 0 value, asked⟩ (.invoke second 0 sysm) =
      some (some ⟨.returned (some value), false⟩, ⟨proxy, asked⟩) := by
  obtain ⟨proxy, found⟩ := SysmProxyCache.invokeArgs_once sameKey keeps first.method 0 value sysm
  obtain ⟨arg, others, same⟩ := List.exists_cons_of_ne_nil args
  rw [same, sameMethod] at found
  refine ⟨proxy, ?_⟩
  simp only [ProxyUse.step, SysmProxyCache.invoke, same, sameMethod, found, Option.bind_eq_bind, Option.bind_some]
  rfl

/-- A cache that keeps its values is sound only if the keys of the calls tell them apart:
the second of two calls with one key is answered with the value of the first. -/
theorem keysTellApart_of_soundFor [Inhabited ν] {calls : Set Invocation} (sound : SoundFor ν calls expire)
    (keeps : 0 ≤ expire.toInt) : KeysTellApart calls := by
  intro first inCalls second inCalls' sameMethod sameKey
  by_cases plain : first.args = []
  · exact ⟨sameMethod, by rw [plain, Invocation.args_eq_nil sameMethod plain]⟩
  · have args : second.args ≠ [] := fun empty => plain (Invocation.args_eq_nil sameMethod.symm empty)
    have asks := @ProxyUse.step_first ν expire first plain default
    obtain ⟨proxy, cached⟩ := ProxyUse.step_second sameMethod sameKey args keeps (default : ν) (.returned none)
      [⟨first, 0, some default⟩]
    have made : ∀ call timeNow sysm, ProxyStep.invoke call timeNow sysm ∈
        [.invoke first 0 (.returned (some (default : ν))), .invoke second 0 (.returned none)] → call ∈ calls := by
      intro call timeNow sysm member
      simp only [List.mem_cons, ProxyStep.invoke.injEq, List.not_mem_nil, or_false] at member
      rcases member with ⟨rfl, _⟩ | ⟨rfl, _⟩
      · exact inCalls
      · exact inCalls'
    have ordered : ([ProxyStep.invoke first 0 (.returned (some (default : ν))),
        .invoke second 0 (.returned none)].filterMap ProxyStep.time?).Pairwise (· ≤ ·) := by
      simp [ProxyStep.time?]
    have run : Machine.run ProxyUse.step (.start expire) [.invoke first 0 (.returned (some (default : ν)))] =
        some ([some ⟨.returned (some default), true⟩], _) :=
      Machine.run_cons_iff.mpr ⟨_, _, [], asks, rfl, rfl⟩
    obtain ⟨reply, next, replied, explained⟩ := sound _ made ordered [_] second 0 (.returned none) [] rfl _ _ run
    rw [cached] at replied
    cases replied
    rcases explained (some default) rfl with ⟨asked, _⟩ | ⟨entry, member, same, _⟩
    · cases asked
    · cases List.mem_singleton.mp member
      exact same

/-- A cache that keeps nothing, or whose keys tell the calls apart, is sound. -/
theorem soundFor_of_keysTellApart {calls : Set Invocation} (fits : expire.toInt < 0 ∨ KeysTellApart calls) :
    SoundFor ν calls expire := by
  intro steps made ordered before call timeNow sysm after split replies use run
  obtain ⟨sound, own, recorded⟩ := ProxyUse.sound_run run
  obtain ⟨reply, proxy, invoked, _, _, explained⟩ := sound.invokes call timeNow sysm
  refine ⟨reply, ⟨proxy, reply.askedAfter call timeNow sysm use.asked⟩, ?_, ?_⟩
  · simp only [ProxyUse.step, invoked, Option.bind_eq_bind, Option.bind_some]
    rfl
  · intro value returned
    rcases explained value returned with asked | ⟨entry, member, sameMethod, sameKey, ownValue, young⟩
    · exact Or.inl asked
    · rw [own] at young
      obtain ⟨earlier, inBefore⟩ := recorded entry member
      refine Or.inr ⟨entry, member, ?_, ownValue, young⟩
      rcases fits with nothing | tellApart
      · -- what was asked for earlier is out of time
        have inOrder : entry.time ≤ timeNow := by
          rw [split, List.filterMap_append, List.pairwise_append] at ordered
          refine ordered.2.2 entry.time ?_ timeNow ?_
          · exact List.mem_filterMap.mpr ⟨_, inBefore, rfl⟩
          · exact List.mem_filterMap.mpr ⟨_, List.mem_cons_self .., rfl⟩
        omega
      · have entryMade := made entry.call entry.time earlier (by rw [split]; exact List.mem_append_left _ inBefore)
        have callMade := made call timeNow sysm (by rw [split]; simp)
        exact tellApart entry.call entryMade call callMade sameMethod sameKey

/-- The cache is sound for clients exactly if it keeps nothing, or no two of their
calls have one method and one key but different arguments. -/
theorem soundFor_iff [Inhabited ν] (calls : Set Invocation) (expire : Int32) :
    SoundFor ν calls expire ↔ expire.toInt < 0 ∨ KeysTellApart calls := by
  constructor
  · intro sound
    by_cases nothing : expire.toInt < 0
    · exact Or.inl nothing
    · exact Or.inr (keysTellApart_of_soundFor sound (Int.not_lt.mp nothing))
  · exact soundFor_of_keysTellApart

/-- `getProcessPort` for a port of TCP or UDP -/
def getProcessPort (protocol : Int32) (port : Int64) : Invocation where
  method := ⟨"getProcessPort", [.int, .long]⟩
  args := [.int protocol, .long port]
  declared := by decide
  typed := rfl

/-- The process of the TCP port 80 is returned for the UDP port 96. -/
theorem invoke_answers_other_port : ¬ ∀ steps : List (ProxyStep Nat),
    (steps.filterMap ProxyStep.time?).Pairwise (· ≤ ·) → AnswersSoundly 30000 steps := by
  intro claim
  let tcp : ProxyStep Nat := .invoke (getProcessPort 0x10 80) 0 (.returned (some 412))
  let udp : ProxyStep Nat := .invoke (getProcessPort 0x20 96) 5 (.returned (some 0))
  have asked : (Machine.run ProxyUse.step (.start 30000) [tcp]).map
      (fun result => result.2.asked.map fun entry => entry.call.args) = some [[.int 0x10, .long 80]] := by decide +kernel
  have replies : (Machine.run ProxyUse.step (.start 30000) [tcp, udp]).map Prod.fst =
      some [some ⟨.returned (some 412), true⟩, some ⟨.returned (some 412), false⟩] := by decide +kernel
  obtain ⟨⟨before, use⟩, run, asked⟩ := Option.map_eq_some_iff.mp asked
  obtain ⟨⟨both, final⟩, runBoth, replies⟩ := Option.map_eq_some_iff.mp replies
  obtain ⟨done, middle, last, ran, stepped, answers⟩ := @Machine.run_snoc_iff _ _ _ _ _ _ udp [tcp] _ |>.mp runBoth
  rw [run] at ran
  cases ran
  obtain ⟨reply, next, replied, explained⟩ := claim [tcp, udp] (by decide) [tcp] (getProcessPort 0x20 96) 5
    (.returned (some 0)) [] rfl before use run
  rw [stepped] at replied
  cases replied
  have cached : reply = ⟨.returned (some 412), false⟩ := by
    have lasts := congrArg List.getLast? (answers.symm.trans replies)
    rw [List.getLast?_concat] at lasts
    exact Option.some.inj (Option.some.inj lasts)
  rcases explained (some 412) (by rw [cached]) with ⟨now, _⟩ | ⟨entry, member, same, _⟩
  · rw [cached] at now
    cases now
  · have args : entry.call.args ∈ use.asked.map fun entry => entry.call.args := List.mem_map_of_mem member
    rw [asked] at args
    have sameArgs := same.2
    rw [List.mem_singleton.mp args] at sameArgs
    revert sameArgs
    decide

end Sysm

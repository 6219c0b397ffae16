import Parsec.Schema.Registry

/-! # What calls keep of the registry

Current patterns and their histories are two maps that four calls change separately. They stay in
step, and a call that fails on a single pattern changes neither. -/

namespace Parsec.Schema

open Foundation

namespace MemoryRegistry

variable {Contract : Type}

def Under (key : String) (stored : ChannelPattern Contract) : Prop :=
  stored.pattern = key ∧ parsePattern key = .ok stored.compiled

structure WellFormed (registry : MemoryRegistry Contract) : Prop where
  keys : ∀ key, key ∈ registry.patterns ↔ key ∈ registry.versions
  newest : ∀ key history, registry.versions.lookup key = some history →
    ∃ current, registry.patterns.lookup key = some current ∧ history.getLast? = some current
  current : ∀ key stored, registry.patterns.lookup key = some stored → Under key stored
  earlier : ∀ key history, registry.versions.lookup key = some history →
    ∀ stored ∈ history, Under key stored

theorem wellFormed_empty : (empty : MemoryRegistry Contract).WellFormed where
  keys := fun _ => Iff.rfl
  newest := by
    intro key history found
    cases found
  current := by
    intro key stored found
    cases found
  earlier := by
    intro key history found
    cases found

section Calls

variable {registry : MemoryRegistry Contract}

section

variable (wellFormed : registry.WellFormed)
include wellFormed

theorem WellFormed.store {stored : ChannelPattern Contract}
    (parsed : parsePattern stored.pattern = .ok stored.compiled)
    {history : List (ChannelPattern Contract)}
    (known : history = [] ∨ registry.versions.lookup stored.pattern = some history) :
    (registry.store stored history).WellFormed where
  keys := by
    intro key
    simp only [MemoryRegistry.store, AList.mem_insert, wellFormed.keys key]
  newest := by
    intro key versions found
    rcases Records.of_lookup_insert found with ⟨rfl, rfl⟩ | ⟨different, found⟩
    · exact ⟨stored, AList.lookup_insert _, List.getLast?_concat⟩
    · rw [MemoryRegistry.store, AList.lookup_insert_ne different]
      exact wellFormed.newest key versions found
  current := Records.forall_lookup_insert wellFormed.current ⟨rfl, parsed⟩
  earlier := by
    apply Records.forall_lookup_insert wellFormed.earlier
    intro other member
    rcases List.mem_append.mp member with old | new
    · rcases known with none | all
      · rw [none] at old
        cases old
      · exact wellFormed.earlier _ history all other old
    · rw [List.mem_singleton.mp new]
      exact ⟨rfl, parsed⟩

theorem WellFormed.erase (pattern : String) : (registry.erase pattern).WellFormed where
  keys := by
    intro key
    simp only [MemoryRegistry.erase, AList.mem_erase, wellFormed.keys key]
  newest := by
    intro key history found
    rcases Records.of_lookup_erase found with ⟨different, found⟩
    rw [MemoryRegistry.erase, AList.lookup_erase_ne different]
    exact wellFormed.newest key history found
  current := fun key stored found => wellFormed.current key stored (Records.of_lookup_erase found).2
  earlier := fun key history found =>
    wellFormed.earlier key history (Records.of_lookup_erase found).2

theorem WellFormed.loadPatterns (declared : List (Declaration Contract)) :
    (loadPatterns declared registry).2.WellFormed := by
  induction declared generalizing registry with
  | nil => exact wellFormed
  | cons first rest induction =>
    unfold MemoryRegistry.loadPatterns
    cases parsed : parsePattern first.pattern with
    | error error => exact wellFormed
    | ok pattern =>
      have next : (registry.store (compile first 1 pattern) []).WellFormed :=
        wellFormed.store parsed (.inl rfl)
      exact induction next

theorem WellFormed.perform (call : Call Contract) : (registry.perform call).2.WellFormed := by
  rcases registry.perform_cases call with ⟨_, unchanged⟩ |
    ⟨declared, default, pattern, earlier, parsed, known, _, stores⟩ | ⟨pattern, _, erases⟩ |
    ⟨declared, _, loads⟩
  · rwa [unchanged]
  · rw [stores]
    exact wellFormed.store parsed known
  · rw [erases]
    exact wellFormed.erase pattern
  · rw [loads]
    exact wellFormed_empty.loadPatterns declared

end

theorem wellFormed_registryAfter (calls : List (Call Contract)) :
    (registryAfter calls).WellFormed :=
  Service.after_invariant perform (fun _ => True) WellFormed
    (fun _ call wellFormed _ => wellFormed.perform call) wellFormed_empty (fun _ _ => trivial)

theorem WellFormed.lookup_of_visited (wellFormed : registry.WellFormed)
    {visited : List (ChannelPattern Contract)} (visits : registry.Visits visited)
    {stored : ChannelPattern Contract} (member : stored ∈ visited) :
    registry.patterns.lookup stored.pattern = some stored := by
  rcases List.mem_map.mp (visits.mem_iff.mp member) with ⟨⟨key, value⟩, listed, rfl⟩
  have found := Records.mem_entries.mp listed
  rw [(wellFormed.current key value found).1]
  exact found

end Calls

def Call.isSingle : Call Contract → Bool
  | .register _ | .update _ | .deregister _ => true
  | .loadSnapshot _ => false

private theorem unchanged_of_failed {registry : MemoryRegistry Contract} {call : Call Contract}
    (single : call.isSingle = true) {error : String}
    (failed : (registry.perform call).1 = .error error) :
    (registry.perform call).2 = registry := by
  rcases registry.perform_cases call with ⟨_, unchanged⟩ |
    ⟨_, _, _, _, _, _, ⟨change, succeeds⟩, _⟩ | ⟨_, ⟨change, succeeds⟩, _⟩ | ⟨_, loads, _⟩
  · exact unchanged
  · rw [succeeds] at failed
    cases failed
  · rw [succeeds] at failed
    cases failed
  · rw [loads] at single
    cases single

/-- After any calls the registry is consistent, a call about a single pattern that fails leaves
it alone, and channels are resolved to current patterns. -/
theorem registry_consistent (calls : List (Call Contract)) :
    (registryAfter calls).WellFormed ∧
    (∀ call : Call Contract, call.isSingle = true →
      ∀ error, ((registryAfter calls).perform call).1 = .error error →
        ((registryAfter calls).perform call).2 = registryAfter calls) ∧
    ∀ visited, (registryAfter calls).Visits visited → ∀ channel found bindings,
      resolve visited channel = .ok (found, bindings) →
        (registryAfter calls).patterns.lookup found.pattern = some found := by
  have wellFormed := wellFormed_registryAfter calls
  refine ⟨wellFormed, ?_, ?_⟩
  · intro call single error failed
    exact unchanged_of_failed single failed
  · intro visited visits channel found bindings resolved
    exact wellFormed.lookup_of_visited visits (not_outweighs_of_resolve resolved).1

def loadable : List (Declaration Contract) → List (ChannelPattern Contract)
  | [] => []
  | declared :: rest =>
    match parsePattern declared.pattern with
    | .error _ => []
    | .ok compiled => compile declared 1 compiled :: loadable rest

def latest (stored : List (ChannelPattern Contract)) (key : String) :
    Option (ChannelPattern Contract) :=
  (stored.filter fun pattern => pattern.pattern = key).getLast?

def Holds (registry : MemoryRegistry Contract) (stored : List (ChannelPattern Contract)) : Prop :=
  ∀ key, registry.patterns.lookup key = latest stored key ∧
    registry.versions.lookup key = (latest stored key).map fun pattern => [pattern]

theorem latest_cons (first : ChannelPattern Contract) (rest : List (ChannelPattern Contract))
    (key : String) :
    latest (first :: rest) key =
      (latest rest key).or (if first.pattern = key then some first else none) := by
  unfold latest
  by_cases same : first.pattern = key
  · rw [List.filter_cons_of_pos (by simpa using same), if_pos same, List.getLast?_cons]
    cases (rest.filter fun pattern => pattern.pattern = key).getLast? <;> rfl
  · rw [List.filter_cons_of_neg (by simpa using same), if_neg same, Option.or_none]

variable (declared : List (Declaration Contract))

theorem lookup_loadPatterns (registry : MemoryRegistry Contract) (key : String) :
    (loadPatterns declared registry).2.patterns.lookup key =
        (latest (loadable declared) key).or (registry.patterns.lookup key) ∧
      (loadPatterns declared registry).2.versions.lookup key =
        ((latest (loadable declared) key).map fun pattern => [pattern]).or
          (registry.versions.lookup key) := by
  induction declared generalizing registry with
  | nil => exact ⟨rfl, rfl⟩
  | cons first rest induction =>
    unfold loadPatterns loadable
    cases parsed : parsePattern first.pattern with
    | error error => exact ⟨rfl, rfl⟩
    | ok pattern =>
      rw [latest_cons, (induction _).1, (induction _).2]
      by_cases same : (compile first 1 pattern).pattern = key
      · have named : first.pattern = key := same
        subst named
        cases latest (loadable rest) first.pattern <;> simp [AList.lookup_insert, compile]
      · have other : key ≠ first.pattern := fun equal => same equal.symm
        cases latest (loadable rest) key <;> simp [AList.lookup_insert_ne other, same]

private theorem holds_loadPatterns :
    (loadPatterns declared (empty : MemoryRegistry Contract)).2.Holds (loadable declared) := by
  intro key
  have none : (empty : MemoryRegistry Contract).patterns.lookup key = none ∧
      (empty : MemoryRegistry Contract).versions.lookup key = none := ⟨rfl, rfl⟩
  have loaded := lookup_loadPatterns declared (empty : MemoryRegistry Contract) key
  rwa [none.1, none.2, Option.or_none, Option.or_none] at loaded

/-- Patterns, histories and resolutions are the same, in whatever order the maps are visited. -/
structure Unchanged (before after : MemoryRegistry Contract) : Prop where
  patterns : ∀ key, after.patterns.lookup key = before.patterns.lookup key
  versions : ∀ key, after.versions.lookup key = before.versions.lookup key
  resolutions : ∀ visited visitedAfter, before.Visits visited → after.Visits visitedAfter →
    ∀ channel, resolve visitedAfter channel = resolve visited channel

section Resolutions

variable {visited other : List (ChannelPattern Contract)}

theorem resolve_congr (same : ∀ stored, stored ∈ visited ↔ stored ∈ other)
    (apart : ∀ first ∈ visited, ∀ second ∈ visited, first.pattern = second.pattern →
      first = second) (channel : String) : resolve visited channel = resolve other channel := by
  have listed : ∀ stored, stored ∈ matching visited channel ↔ stored ∈ matching other channel := by
    intro stored
    rw [matching, matching, List.mem_filter, List.mem_filter, same]
  by_cases unmatched : matching visited channel = []
  · have too : matching other channel = [] := by
      apply List.eq_nil_iff_forall_not_mem.mpr
      intro stored member
      have absurd := (listed stored).mpr member
      rw [unmatched] at absurd
      cases absurd
    rw [resolve_of_unmatched unmatched, resolve_of_unmatched too]
  · have too : matching other channel ≠ [] := by
      rcases List.exists_mem_of_ne_nil _ unmatched with ⟨stored, member⟩
      exact List.ne_nil_of_mem ((listed stored).mp member)
    rcases resolve_of_matching unmatched with ⟨found, bindings, resolved⟩
    rcases resolve_of_matching too with ⟨otherFound, otherBindings, otherResolved⟩
    rcases not_outweighs_of_resolve resolved with ⟨member, matched, best⟩
    rcases not_outweighs_of_resolve otherResolved with ⟨otherMember, otherMatched, otherBest⟩
    have isMatching : ∀ {stored : ChannelPattern Contract} {bound visited}, stored ∈ visited →
        stored.compiled.match? channel = some bound → stored ∈ matching visited channel := by
      intro stored bound visited member matched
      rw [matching, List.mem_filter, matched]
      exact ⟨member, rfl⟩
    have texts : found.pattern = otherFound.pattern := by
      rcases outweighs_total found otherFound with more | less | equal
      · exact absurd more (otherBest found ((listed found).mp (isMatching member matched)))
      · exact absurd less
          (best otherFound ((listed otherFound).mpr (isMatching otherMember otherMatched)))
      · exact equal
    have equal := apart found member otherFound ((same otherFound).mpr otherMember) texts
    subst equal
    rw [matched] at otherMatched
    rw [resolved, otherResolved, Option.some.inj otherMatched]

end Resolutions

theorem WellFormed.resolve_eq {before after : MemoryRegistry Contract}
    (wellFormed : before.WellFormed) (afterWellFormed : after.WellFormed)
    (same : ∀ key, after.patterns.lookup key = before.patterns.lookup key)
    {visited visitedAfter : List (ChannelPattern Contract)} (visits : before.Visits visited)
    (visitsAfter : after.Visits visitedAfter) (channel : String) :
    resolve visitedAfter channel = resolve visited channel := by
  have member : ∀ {registry : MemoryRegistry Contract} {visited}, registry.WellFormed →
      registry.Visits visited → ∀ stored, stored ∈ visited ↔
        registry.patterns.lookup stored.pattern = some stored := by
    intro registry visited wellFormed visits stored
    constructor
    · exact wellFormed.lookup_of_visited visits
    · intro found
      exact visits.mem_iff.mpr (List.mem_map.mpr ⟨_, Records.mem_entries.mpr found, rfl⟩)
  apply resolve_congr
  · intro stored
    rw [member afterWellFormed visitsAfter, member wellFormed visits, same]
  · intro first firstIn second secondIn texts
    have firstFound := (member afterWellFormed visitsAfter first).mp firstIn
    have secondFound := (member afterWellFormed visitsAfter second).mp secondIn
    rw [texts, secondFound] at firstFound
    exact (Option.some.inj firstFound).symm

/-- A rejected snapshot changes nothing exactly if it is no JSON of a snapshot, or if the entries
before the first bad one are what the registry had anyway. -/
theorem rejected_snapshot_unchanged_iff (calls : List (Call Contract))
    {decoded : Except String (List (Declaration Contract))} {error : String}
    (rejected : ((registryAfter calls).loadSnapshot decoded).1 = .error error) :
    Unchanged (registryAfter calls) ((registryAfter calls).loadSnapshot decoded).2 ↔
      decoded = .error error ∨
        ∃ declared, decoded = .ok declared ∧ (registryAfter calls).Holds (loadable declared) := by
  have wellFormed := wellFormed_registryAfter calls
  cases decoded with
  | error reason =>
    have same : reason = error := Except.error.inj rejected
    refine iff_of_true ⟨fun _ => rfl, fun _ => rfl, ?_⟩ (.inl (congrArg _ same))
    intro visited visitedAfter visits visitsAfter channel
    exact wellFormed.resolve_eq wellFormed (fun _ => rfl) visits visitsAfter channel
  | ok declared =>
    have held := holds_loadPatterns declared
    have loaded := wellFormed_empty.loadPatterns declared
    change Unchanged (registryAfter calls) (loadPatterns declared empty).2 ↔ _
    constructor
    · intro unchanged
      refine .inr ⟨declared, rfl, ?_⟩
      intro key
      rw [← unchanged.patterns, ← unchanged.versions]
      exact held key
    · intro either
      rcases either with impossible | ⟨_, same, already⟩
      · cases impossible
      · cases same
        have patterns : ∀ key, (loadPatterns declared empty).2.patterns.lookup key =
            (registryAfter calls).patterns.lookup key := by
          intro key
          rw [(held key).1, (already key).1]
        refine ⟨patterns, ?_, ?_⟩
        · intro key
          rw [(held key).2, (already key).2]
        · intro visited visitedAfter visits visitsAfter channel
          exact wellFormed.resolve_eq loaded patterns visits visitsAfter channel

/-- A text that is no JSON is rejected before anything is replaced. -/
theorem truncated_snapshot_unchanged :
    Unchanged (registryAfter (registered ["orders.**"]))
      ((registryAfter (registered ["orders.**"])).loadSnapshot
        (.error "unexpected end of JSON input")).2 :=
  (rejected_snapshot_unchanged_iff (registered ["orders.**"]) rfl).mpr (.inl rfl)

def afterBadSnapshot : Except String Unit × MemoryRegistry Unit :=
  (registryAfter (registered ["orders.**"])).loadSnapshot
    (.ok [{ pattern := "orders.x*", version := 1, contract := () }])

theorem rejected_snapshot_empties_registry :
    afterBadSnapshot.1.isOk = false ∧
      (resolve (visitedAfter (registered ["orders.**"])) "orders.placed").isOk = true ∧
      (afterBadSnapshot.2.patterns.lookup "orders.**").isNone = true ∧
      (afterBadSnapshot.2.versions.lookup "orders.**").isNone = true ∧
      (resolve (afterBadSnapshot.2.patterns.entries.map (·.2)) "orders.placed").isOk = false := by
  decide +kernel

end MemoryRegistry

end Parsec.Schema

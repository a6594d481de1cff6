import ModuleContext.Misc.Elementwise
import ModuleContext.Misc.JoinedKeys
import ModuleContext.RabbitMqBus.ConfigElements
import ModuleContext.RabbitMqBus.Topology

/-!
# The identity of a binding

`ParseBusConfig` tells bindings apart by the text `exchange|queue|routing_key`, and
`IsSameBinding` by the three fields. The two agree as long as the fields of no binding run into
those of another, which takes a `|` in the name of an exchange or of a queue.
-/

namespace ModuleContext.RabbitMqBus
open Foundation Misc

/-- The fields of `first` run into those of `second`: they differ, but read the same once they
are joined, because `second` keeps in its exchange, or after the same exchange in its queue,
what `first` has behind a `|`. -/
def BindingSpec.RunsInto (first second : BindingSpec) : Prop :=
  (∃ middle, second.exchange = first.exchange ++ "|" ++ middle ∧
    first.queue ++ "|" ++ first.routingKey =
      middle ++ "|" ++ (second.queue ++ "|" ++ second.routingKey)) ∨
  (first.exchange = second.exchange ∧ ∃ middle, second.queue = first.queue ++ "|" ++ middle ∧
    first.routingKey = middle ++ "|" ++ second.routingKey)

theorem bindingKey_eq_iff {first second : BindingSpec} :
    bindingKey first = bindingKey second ↔
      isSameBinding first second = true ∨ first.RunsInto second ∨ second.RunsInto first := by
  have spelled (spec : BindingSpec) :
      bindingKey spec = spec.exchange ++ "|" ++ (spec.queue ++ "|" ++ spec.routingKey) := by
    simp only [bindingKey, String.append_assoc]
  rw [spelled, spelled, joinedText_eq_iff, joinedText_eq_iff, isSameBinding_iff]
  simp only [BindingSpec.identity, BindingSpec.RunsInto, Prod.mk.injEq]
  constructor
  · rintro (⟨exchanges, ⟨queues, keys⟩ | queues | queues⟩ | exchanges | exchanges)
    · exact .inl ⟨exchanges, queues, keys⟩
    · exact .inr (.inl (.inr ⟨exchanges, queues⟩))
    · exact .inr (.inr (.inr ⟨exchanges.symm, queues⟩))
    · exact .inr (.inl (.inl exchanges))
    · exact .inr (.inr (.inl exchanges))
  · rintro (⟨exchanges, queues, keys⟩ | (exchanges | ⟨exchanges, queues⟩) |
      (exchanges | ⟨exchanges, queues⟩))
    · exact .inl ⟨exchanges, .inl ⟨queues, keys⟩⟩
    · exact .inr (.inl exchanges)
    · exact .inl ⟨exchanges, .inr (.inl queues)⟩
    · exact .inr (.inr exchanges)
    · exact .inl ⟨exchanges.symm, .inr (.inr queues)⟩

/-- A text that goes on behind another one is not that text. -/
theorem ne_append_separator (text middle : String) : text ≠ text ++ "|" ++ middle := by
  intro same
  have lengths := congrArg String.length same
  simp only [String.length_append] at lengths
  have one : "|".length = 1 := by decide
  omega

theorem BindingSpec.RunsInto.ne {first second : BindingSpec} (runs : first.RunsInto second) :
    first ≠ second := by
  rintro rfl
  rcases runs with ⟨middle, exchange, -⟩ | ⟨-, middle, queue, -⟩
  · exact ne_append_separator _ _ exchange
  · exact ne_append_separator _ _ queue

/-- Fields only run into each other at a separator in the name of an exchange or a queue. -/
theorem BindingSpec.RunsInto.separator {first second : BindingSpec}
    (runs : first.RunsInto second) :
    '|' ∈ second.exchange.toList ∨ '|' ∈ second.queue.toList := by
  rcases runs with ⟨middle, exchange, -⟩ | ⟨-, middle, queue, -⟩
  · left
    rw [exchange]
    simp
  · right
    rw [queue]
    simp

section UniqueArray

variable {α : Type} {collectionName : String} {parser : ConfigValue → Result α}
  {keyExtractor : α → String} {values : List ConfigValue} {items : List α}

/-- Of an array whose elements all parse, the loop refuses nothing but a repeated key. -/
theorem parseUniqueFrom_error_code {index : Nat} {seenKeys : List String} {e : Error}
    (wellFormed : List.Forall₂ (fun value item => value.isObject = true ∧ parser value = .ok item)
      values items)
    (refused : parseUniqueFrom collectionName parser keyExtractor values index seenKeys =
      .error e) : e.code = .alreadyExists := by
  induction wellFormed generalizing index seenKeys with
  | nil => cases refused
  | cons here _ ih =>
    rw [parseUniqueFrom, if_pos here.1] at refused
    simp only [here.2] at refused
    split at refused
    · cases refused
      rfl
    · split at refused
      · rename_i later
        cases refused
        exact ih later
      · cases refused

/-- Such an array is refused as a duplicate exactly if two elements have the same key. -/
theorem parseUniqueArray_alreadyExists
    (wellFormed : List.Forall₂ (fun value item => value.isObject = true ∧ parser value = .ok item)
      values items) :
    (∃ message, parseUniqueArray values collectionName parser keyExtractor =
        .error ⟨.alreadyExists, message⟩) ↔
      ∃ first second, [first, second].Sublist items ∧
        keyExtractor first = keyExtractor second := by
  rw [← not_nodup_map_iff]
  cases outcome : parseUniqueArray values collectionName parser keyExtractor with
  | error e =>
    have code := parseUniqueFrom_error_code wellFormed outcome
    refine iff_of_true ⟨e.message, by rw [← code]⟩ ?_
    intro distinct
    rw [parseUniqueArray_ok.mpr ⟨wellFormed, distinct⟩] at outcome
    cases outcome
  | ok output =>
    obtain ⟨matched, distinct⟩ := parseUniqueArray_ok.mp outcome
    have same : output = items := by
      have parses := map_eq_of_related (f := parser) (g := Except.ok)
        (fun _ _ accepted => accepted.2) matched
      rw [map_eq_of_related (f := parser) (g := Except.ok)
        (fun _ _ accepted => accepted.2) wellFormed] at parses
      exact (List.map_injective_iff.mpr (fun _ _ => Except.ok.inj)) parses.symm
    subst same
    refine iff_of_false ?_ (not_not_intro distinct)
    rintro ⟨message, refused⟩
    cases refused

end UniqueArray

/-- Two entries of an array declare the same binding. -/
def HasSameBinding (specs : List BindingSpec) : Prop :=
  ∃ first second, [first, second].Sublist specs ∧ isSameBinding first second = true

/-- Two entries have the same key if they declare the same binding, or if the fields of one entry
run into those of another. -/
theorem hasSameKey_iff {specs : List BindingSpec} :
    (∃ first second, [first, second].Sublist specs ∧ bindingKey first = bindingKey second) ↔
      HasSameBinding specs ∨ ∃ first ∈ specs, ∃ second ∈ specs, first.RunsInto second := by
  constructor
  · rintro ⟨first, second, pair, key⟩
    have here : first ∈ specs := pair.subset List.mem_cons_self
    have there : second ∈ specs := pair.subset (List.mem_cons_of_mem _ List.mem_cons_self)
    rcases bindingKey_eq_iff.mp key with same | runs | runs
    · exact .inl ⟨first, second, pair, same⟩
    · exact .inr ⟨first, here, second, there, runs⟩
    · exact .inr ⟨second, there, first, here, runs⟩
  · rintro (⟨first, second, pair, same⟩ | ⟨first, here, second, there, runs⟩)
    · exact ⟨first, second, pair, bindingKey_eq_iff.mpr (.inl same)⟩
    · have key : bindingKey first = bindingKey second :=
        bindingKey_eq_iff.mpr (.inr (.inl runs))
      rcases pair_sublist_of_ne here there runs.ne with pair | pair
      · exact ⟨first, second, pair, key⟩
      · exact ⟨second, first, pair, key.symm⟩

/-- The bindings are refused as duplicates if two of them are the same, or if the fields of one
run into those of another. -/
theorem parseBindings_alreadyExists {values : List ConfigValue} {specs : List BindingSpec}
    (wellFormed : List.Forall₂ (fun value spec => BindingSpec.DescribedBy spec value)
      values specs) :
    (∃ message, parseUniqueArray values "topology.bindings" parseBindingSpec bindingKey =
        .error ⟨.alreadyExists, message⟩) ↔
      HasSameBinding specs ∨ ∃ first ∈ specs, ∃ second ∈ specs, first.RunsInto second := by
  have parses := wellFormed.imp fun _ _ described =>
    And.intro described.object (parseBindingSpec_ok.mpr described)
  rw [parseUniqueArray_alreadyExists parses, hasSameKey_iff]

/-- The duplicate check of the bindings and `IsSameBinding` agree on an array exactly if two of
its entries are the same binding anyway, or the fields of no entry run into those of another. -/
theorem duplicateCheck_agrees_iff {values : List ConfigValue} {specs : List BindingSpec}
    (wellFormed : List.Forall₂ (fun value spec => BindingSpec.DescribedBy spec value)
      values specs) :
    ((∃ message, parseUniqueArray values "topology.bindings" parseBindingSpec bindingKey =
        .error ⟨.alreadyExists, message⟩) ↔ HasSameBinding specs) ↔
      HasSameBinding specs ∨ ∀ first ∈ specs, ∀ second ∈ specs, ¬ first.RunsInto second := by
  rw [parseBindings_alreadyExists wellFormed]
  constructor
  · intro agree
    by_cases same : HasSameBinding specs
    · exact .inl same
    · refine .inr fun first here second there runs => same (agree.mp ?_)
      exact .inr ⟨first, here, second, there, runs⟩
  · rintro (same | apart)
    · exact iff_of_true (.inl same) same
    · refine or_iff_left ?_
      rintro ⟨first, here, second, there, runs⟩
      exact apart first here second there runs

/-- Without a separator in the name of an exchange or a queue, the two agree. -/
theorem duplicateCheck_agrees {values : List ConfigValue} {specs : List BindingSpec}
    (wellFormed : List.Forall₂ (fun value spec => BindingSpec.DescribedBy spec value)
      values specs)
    (plain : ∀ spec ∈ specs, '|' ∉ spec.exchange.toList ∧ '|' ∉ spec.queue.toList) :
    (∃ message, parseUniqueArray values "topology.bindings" parseBindingSpec bindingKey =
        .error ⟨.alreadyExists, message⟩) ↔ HasSameBinding specs := by
  rw [parseBindings_alreadyExists wellFormed]
  refine or_iff_left ?_
  rintro ⟨first, -, second, there, runs⟩
  exact runs.separator.elim (plain second there).1 (plain second there).2

/-- An entry of the bindings that gives the three fields of its identity. -/
def bindingEntry (exchange queue routingKey : String) : ConfigValue :=
  .object [("exchange", .string exchange), ("queue", .string queue),
    ("routing_key", .string routingKey)]

theorem bindingEntry_described {exchange queue : String} (routingKey : String)
    (exchangeNonempty : exchange ≠ "") (queueNonempty : queue ≠ "") :
    BindingSpec.DescribedBy ⟨exchange, queue, routingKey, []⟩
      (bindingEntry exchange queue routingKey) :=
  ⟨rfl, rfl, exchangeNonempty, rfl, queueNonempty, rfl, rfl⟩

/-- The bindings of two queues to one exchange. -/
theorem duplicateCheck_agrees_twoQueues :
    ¬ ∃ message, parseUniqueArray
        [bindingEntry "events" "audit" "#", bindingEntry "events" "log" "#"]
        "topology.bindings" parseBindingSpec bindingKey = .error ⟨.alreadyExists, message⟩ := by
  have wellFormed : List.Forall₂ (fun value spec => BindingSpec.DescribedBy spec value)
      [bindingEntry "events" "audit" "#", bindingEntry "events" "log" "#"]
      [⟨"events", "audit", "#", []⟩, ⟨"events", "log", "#", []⟩] :=
    .cons (bindingEntry_described _ (by decide) (by decide))
      (.cons (bindingEntry_described _ (by decide) (by decide)) .nil)
  have plain : ∀ spec ∈ [(⟨"events", "audit", "#", []⟩ : BindingSpec), ⟨"events", "log", "#", []⟩],
      '|' ∉ spec.exchange.toList ∧ '|' ∉ spec.queue.toList := by decide
  rw [(duplicateCheck_agrees_iff wellFormed).mpr (.inr fun _ _ second there runs =>
    runs.separator.elim (plain second there).1 (plain second there).2)]
  rintro ⟨first, second, pair, same⟩
  have both : [first, second] = [⟨"events", "audit", "#", []⟩, ⟨"events", "log", "#", []⟩] :=
    pair.eq_of_length rfl
  cases both
  revert same
  decide

/-- Two bindings that differ in their exchange and in their queue, both named with a `|`, are
refused as a duplicate. -/
theorem distinctBindings_refused :
    ¬ ∀ (values : List ConfigValue) (specs : List BindingSpec),
      List.Forall₂ (fun value spec => BindingSpec.DescribedBy spec value) values specs →
      ((∃ message, parseUniqueArray values "topology.bindings" parseBindingSpec bindingKey =
        .error ⟨.alreadyExists, message⟩) ↔ HasSameBinding specs) := by
  intro agree
  have wellFormed : List.Forall₂ (fun value spec => BindingSpec.DescribedBy spec value)
      [bindingEntry "a|b" "c" "", bindingEntry "a" "b|c" ""]
      [⟨"a|b", "c", "", []⟩, ⟨"a", "b|c", "", []⟩] :=
    .cons (bindingEntry_described _ (by decide) (by decide))
      (.cons (bindingEntry_described _ (by decide) (by decide)) .nil)
  obtain ⟨first, second, pair, same⟩ := (agree _ _ wellFormed).mp ⟨_, rfl⟩
  have both : [first, second] = [⟨"a|b", "c", "", []⟩, ⟨"a", "b|c", "", []⟩] :=
    pair.eq_of_length rfl
  cases both
  revert same
  decide

/-- A whole configuration with these bindings is refused, although it declares the exchanges and
the queues that they name. -/
example : parseBusConfig (.object [
    ("connection", .object [("uri", .string "amqp://localhost/")]),
    ("topology", .object [
      ("exchanges", .array [.object [("name", .string "a|b")], .object [("name", .string "a")]]),
      ("queues", .array [.object [("name", .string "c")], .object [("name", .string "b|c")]]),
      ("bindings", .array [bindingEntry "a|b" "c" "", bindingEntry "a" "b|c" ""])])]) =
    some (.error ⟨.alreadyExists,
      "Duplicate entry 'a|b|c|' in collection 'topology.bindings'"⟩) := by
  decide

end ModuleContext.RabbitMqBus

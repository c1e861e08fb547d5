/-
This file proves what a node can come to. A node registers what it hosts, announces it, keeps a
cache, resolves and is called over HTTP, in any order and at any time. However many of these
things an event is made of, its resolver and its clock take only steps that were known before;
so what holds of every moment in the life of a resolver holds of every node.
-/

import ServiceDiscovery.Proofs.Interface

namespace ServiceDiscovery

theorem Instant.after_zero {moment : Instant}
    (reached : moment.nanoseconds ≤ Instant.last.nanoseconds) : moment.after ⟨0⟩ = moment := by
  have here : moment.add? ⟨0⟩ = some moment := if_pos reached
  rw [after, here]
  rfl

namespace Node

/-! ### What can happen at a node -/

/-- What can happen at a node. The outcome with a resolution or a call is that of its round,
should there be one; a round that takes a while is a wait that ends with a round. Announcing can
be more than the one task of the node, and need not go through the services in any order, so
that everything can be told again at any moment. -/
inductive Event where
  | register (identity : Identity) (handle : Handle)
  | unregister (identity : Identity) (handle : Handle)
  | host (services : List HostedService)
  | startAnnouncing (period : Duration)
  | stopAnnouncing
  | tell (told : List Announcement)
  | add (occurrence : Instance)
  | remove (occurrence : Instance)
  | lookupExact (name : String) (version : Version)
  | lookupCompatible (name : String) (constraint : Constraint)
  | clear
  | round (outcome : Round.Outcome)
  | resolve (query : Query) (busy : Bool) (outcome : Round.Outcome)
  | call (context : Http.Context) (outcome : Round.Outcome) (call : Http.Call)
  | wait (span : Duration)

/-- The node with what a change leaves; a refused change leaves everything. -/
def changed (node : Node) : Except DiscoveryError Node → Node
  | .ok next => next
  | .error _ => node

/-- The node after something happened. -/
def step (node : Node) : Event → Node
  | .register identity handle => node.changed (node.register identity handle)
  | .unregister identity handle => node.changed (node.unregister identity handle)
  | .host services => (node.host services).1
  | .startAnnouncing period => node.startAnnouncing period
  | .stopAnnouncing => node.stopAnnouncing
  | .tell told =>
    if told.Perm (Announcement.all node.now node.registry) then
      { node with log := node.log ++ told }
    else node
  | .add occurrence => (node.addRemote occurrence).1
  | .remove occurrence => (node.removeRemote occurrence).1
  | .lookupExact name version => (node.bestExact name version).2
  | .lookupCompatible name constraint => (node.bestCompatible name constraint).2
  | .clear => node.clear
  | .round outcome => (node.update outcome).1
  | .resolve query busy outcome => (node.resolve query busy outcome).node
  | .call context outcome call => (Http.handle context node outcome call).node
  | .wait span => node.advanceTo (node.now.after span)

/-- The node after several things happened. -/
def after (node : Node) (events : List Event) : Node :=
  events.foldl step node

/-- The states of nodes that start with nothing at any reading of the clock. -/
inductive Reachable : Node → Prop where
  | start (id : NodeId) (lifetime : Duration) {now : Instant}
      (reached : now.nanoseconds ≤ Instant.last.nanoseconds) :
      Reachable { Node.empty id lifetime with now := now }
  | step {node : Node} (reachable : Reachable node) (event : Event) : Reachable (node.step event)

theorem Reachable.after {node : Node} (reachable : node.Reachable) (events : List Event) :
    (node.after events).Reachable := by
  induction events generalizing node with
  | nil => exact reachable
  | cons event others inductionHypothesis => exact inductionHypothesis (reachable.step event)

/-! ### The resolver and the clock of a node -/

/-- The resolver of a node and the reading of its clock. -/
def moment (node : Node) : Moment :=
  ⟨node.resolver, node.now⟩

variable {node : Node}

theorem moment_register (node : Node) (identity : Identity) (handle : Handle) :
    (node.step (.register identity handle)).moment =
      node.moment.step (.register identity handle) := by
  show (node.changed (node.register identity handle)).moment = node.moment.withRegistry
    (node.registry.register identity handle node.now)
  unfold register
  cases node.registry.register identity handle node.now <;> rfl

theorem moment_unregister (node : Node) (identity : Identity) (handle : Handle) :
    (node.step (.unregister identity handle)).moment =
      node.moment.step (.unregister identity handle) := by
  show (node.changed (node.unregister identity handle)).moment = node.moment.withRegistry
    (node.registry.unregister identity handle)
  unfold unregister
  cases node.registry.unregister identity handle <;> rfl

/-- Registering several services takes a resolver from registration to registration. -/
theorem reachable_registerAll (id : NodeId) {moment : Moment} (reachable : moment.Reachable)
    (nextKey : Nat) (services : List HostedService) :
    (moment.withRegistry (.ok ((Hosting.registerAll id moment.now moment.resolver.registry nextKey
      services).registry, []))).Reachable := by
  induction services generalizing moment nextKey with
  | nil => exact reachable
  | cons service others inductionHypothesis =>
    unfold Hosting.registerAll
    split
    · exact reachable
    · rename_i identity _
      split
      · exact reachable
      · rename_i registry notices done
        have registered := reachable.step
          (.register identity ⟨nextKey, Hosting.agentFor id identity⟩)
        change (moment.withRegistry (moment.resolver.registry.register identity _
          moment.now)).Reachable at registered
        rw [done] at registered
        exact inductionHypothesis registered (nextKey + 1)

theorem reachable_resolve (reachable : node.moment.Reachable) (query : Query) (busy : Bool)
    (outcome : Round.Outcome) : (node.resolve query busy outcome).node.moment.Reachable := by
  have resolved := reachable.step (.resolve query busy outcome ⟨0⟩)
  have still : node.now.after ⟨0⟩ = node.now := Instant.after_zero reachable.wellFormed.reached
  change Moment.Reachable ⟨(node.resolver.resolve query busy node.now fun _ =>
    ⟨outcome, node.now.after ⟨0⟩⟩).resolver, if _ then node.now else node.now.after ⟨0⟩⟩ at resolved
  rwa [still, ite_self] at resolved

theorem reachable_update (reachable : node.moment.Reachable) (outcome : Round.Outcome) :
    (node.update outcome).1.moment.Reachable := by
  have updated := reachable.step (.round outcome ⟨0⟩)
  have still : node.now.after ⟨0⟩ = node.now := Instant.after_zero reachable.wellFormed.reached
  change Moment.Reachable ⟨(node.resolver.update outcome (node.now.after ⟨0⟩)).1,
    node.now.after ⟨0⟩⟩ at updated
  rwa [still] at updated

theorem reachable_handle (reachable : node.moment.Reachable) (context : Http.Context)
    (outcome : Round.Outcome) (call : Http.Call) :
    (Http.handle context node outcome call).node.moment.Reachable := by
  have course := Http.handle_course context node outcome call
  generalize Http.handle context node outcome call = effect at course ⊢
  cases course with
  | untouched => exact reachable
  | resolved posted placed read parsed done =>
    rw [← done]
    exact reachable_resolve reachable _ _ _
  | removed => exact reachable.step (.remove _)
  | cleared => exact reachable.step .clear

/-- Whatever happens at a node, its resolver and its clock go where they can go by themselves. -/
theorem reachable_step (reachable : node.moment.Reachable) (event : Event) :
    (node.step event).moment.Reachable := by
  cases event with
  | register identity handle =>
    rw [moment_register]
    exact reachable.step _
  | unregister identity handle =>
    rw [moment_unregister]
    exact reachable.step _
  | host services => exact reachable_registerAll node.id reachable node.nextKey services
  | startAnnouncing | stopAnnouncing => exact reachable
  | tell told =>
    show Moment.Reachable (Node.moment (if _ then _ else _))
    split <;> exact reachable
  | add occurrence => exact reachable.step (.add occurrence)
  | remove occurrence => exact reachable.step (.remove occurrence)
  | lookupExact name version => exact reachable.step (.lookupExact name version)
  | lookupCompatible name constraint => exact reachable.step (.lookupCompatible name constraint)
  | clear => exact reachable.step .clear
  | round outcome => exact reachable_update reachable outcome
  | resolve query busy outcome => exact reachable_resolve reachable query busy outcome
  | call context outcome call => exact reachable_handle reachable context outcome call
  | wait span => exact reachable.step (.wait span)

theorem Reachable.moment (reachable : node.Reachable) : node.moment.Reachable := by
  induction reachable with
  | start id lifetime reached => exact .start id lifetime reached
  | step _ event inductionHypothesis => exact reachable_step inductionHypothesis event

/-- The registry and the cache of a node are as their operations leave them. -/
theorem Reachable.wellFormed (reachable : node.Reachable) : node.resolver.WellFormed :=
  reachable.moment.wellFormed.resolver

end Node

end ServiceDiscovery

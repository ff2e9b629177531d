import ToolGateway.Proofs.Config.Entries
import ToolGateway.Proofs.Table.Insertion

/-!
# The registry of a configuration

A valid configuration gives every tool server a label of its own, so its registry has one record for
each and no others: the one that was written, but for blanks around its endpoint.
-/

namespace ToolGateway

namespace Registry

variable {registry : Registry} {servers : List ToolServer} {label : String}

/-- Records of other labels do not matter. -/
theorem get?_foldl_register_of_forall_ne (h : ∀ server ∈ servers, server.label ≠ label) :
    (servers.foldl register registry).get? label = registry.get? label := by
  induction servers generalizing registry with
  | nil => rfl
  | cons first servers ih =>
    obtain ⟨hfirst, hrest⟩ := List.forall_mem_cons.mp h
    rw [List.foldl_cons, ih hrest, register, Table.get?_insert_of_ne _ _ hfirst]

/-- Where no two records have the same label, each is found. -/
theorem get?_foldl_register_of_mem
    (h : servers.Pairwise fun server server' => server.label ≠ server'.label) {server : ToolServer}
    (hserver : server ∈ servers) :
    (servers.foldl register registry).get? server.label = some server := by
  induction servers generalizing registry with
  | nil => cases hserver
  | cons first servers ih =>
    obtain ⟨hfirst, hrest⟩ := List.pairwise_cons.mp h
    rw [List.foldl_cons]
    rcases List.mem_cons.mp hserver with rfl | hserver
    · rw [get?_foldl_register_of_forall_ne fun other hother => (hfirst other hother).symm, register,
        Table.get?_insert_self]
    · exact ih hrest hserver

/-- Records are registered by binding their labels. -/
theorem foldl_register_eq (servers : List ToolServer) (registry : Registry) :
    servers.foldl register registry =
      Table.insertAll registry (servers.map fun server => (server.label, server)) := by
  rw [Table.insertAll, List.foldl_map]
  rfl

/-- Where no two records have the same label and none is there yet, none is lost or merged. -/
theorem perm_foldl_register
    (h : servers.Pairwise fun server server' => server.label ≠ server'.label)
    (hnew : ∀ server ∈ servers, ∀ bound ∈ registry, bound.1 ≠ server.label) :
    (servers.foldl register registry).Perm
      (servers.map (fun server => (server.label, server)) ++ registry) := by
  rw [foldl_register_eq]
  refine Table.perm_insertAll (List.pairwise_map.mpr h) fun binding hbinding => ?_
  obtain ⟨server, hserver, rfl⟩ := List.mem_map.mp hbinding
  exact hnew server hserver

/-- The labels of a registry stay in order. -/
theorem sorted_foldl_register (h : registry.Sorted) :
    (servers.foldl register registry).Sorted := by
  rw [foldl_register_eq]
  exact Table.sorted_insertAll h _

end Registry

namespace Config

variable {c : Config}

/-- A record has the label that was written. -/
@[simp] theorem registered_label (server : ToolServer) :
    (registered server).label = server.label := rfl

/-- It has the written endpoint without blanks around. -/
@[simp] theorem registered_endpoint (server : ToolServer) :
    (registered server).endpoint = Text.trim server.endpoint := rfl

/-- It is switched on if that was written. -/
@[simp] theorem registered_enabled (server : ToolServer) :
    (registered server).enabled = server.enabled := rfl

/-- It has the written breaker settings. -/
@[simp] theorem registered_breaker (server : ToolServer) :
    (registered server).breaker = server.breaker := rfl

/-- No two tool servers of a valid configuration have the same label. -/
theorem IsValid.pairwise_labels (h : c.IsValid) :
    c.servers.Pairwise fun server server' => server.label ≠ server'.label := by
  apply pairwise_ne_of_faultsOfEach ToolServer.label _ h.servers_faults_eq_nil
  intro earlier server hjudged
  simp only [serverFaultsBehind, List.append_eq_nil_iff, Fault.when_eq_nil] at hjudged
  exact hjudged.2

/-- The registry of a valid configuration has the records of its tool servers. -/
theorem IsValid.get?_registry_eq_some_iff (h : c.IsValid) {label : String} {record : ToolServer} :
    c.registry.get? label = some record ↔
      ∃ server ∈ c.servers, server.label = label ∧ registered server = record := by
  have hlabels : (c.servers.map registered).Pairwise fun server server' =>
      server.label ≠ server'.label := List.pairwise_map.mpr h.pairwise_labels
  constructor
  · intro hfound
    by_cases hnone : ∃ server ∈ c.servers, server.label = label
    · obtain ⟨server, hserver, rfl⟩ := hnone
      have hrecord : c.registry.get? server.label = some (registered server) :=
        Registry.get?_foldl_register_of_mem hlabels (List.mem_map_of_mem hserver)
      exact ⟨server, hserver, rfl, Option.some.inj (hrecord.symm.trans hfound)⟩
    · have hothers : ∀ server ∈ c.servers.map registered, server.label ≠ label := by
        simpa using hnone
      rw [registry, Registry.ofServers, Registry.get?_foldl_register_of_forall_ne hothers] at hfound
      cases hfound
  · rintro ⟨server, hserver, rfl, rfl⟩
    exact Registry.get?_foldl_register_of_mem hlabels (List.mem_map_of_mem hserver)

/-- It has one record for each of them. -/
theorem IsValid.perm_registry (h : c.IsValid) :
    c.registry.Perm (c.servers.map fun server => (server.label, registered server)) := by
  have hlabels : (c.servers.map registered).Pairwise fun server server' =>
      server.label ≠ server'.label := List.pairwise_map.mpr h.pairwise_labels
  have hperm : c.registry.Perm
      ((c.servers.map registered).map (fun server => (server.label, server)) ++ []) :=
    Registry.perm_foldl_register hlabels (by simp)
  rwa [List.append_nil, List.map_map] at hperm

/-- They come in the order of their labels. -/
theorem sorted_registry (c : Config) : c.registry.Sorted :=
  Registry.sorted_foldl_register List.Pairwise.nil

end Config

end ToolGateway

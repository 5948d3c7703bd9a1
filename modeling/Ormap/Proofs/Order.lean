import Ormap.Proofs.Cells
import Ormap.Proofs.Discriminators
import Ormap.Proofs.Lifecycle
/-!
# Registration order — nothing that is resolved depends on it

Two catalogs with the same entries in different orders find the same entities by name, have the same entities above an
entity and the same entities, in some order, below it.  So every step that reads only these has one result for both, up
to the columns; an owner gives out the same values in another order, and refuses them for both or for neither.
-/
namespace Ormap
namespace Catalog

variable {c c' : Catalog} (h : c.entities.Perm c'.entities)
include h

end Catalog

namespace Resolution

variable {cfg : Config} {c c' : Catalog} {d : EntityDescriptor} {up : List EntityDescriptor}

/-! ## Outlines and columns -/

section
variable (h : c.entities.Perm c'.entities)
include h

end

/-! ## Discriminator values -/

end Resolution

namespace Resolution

variable {cfg : Config} {c c' : Catalog} {d : EntityDescriptor}

end Resolution

namespace Database

/-- Entities of new and distinct names can all be registered. -/
theorem registerAll_eq_ok : ∀ {entities : List EntityDescriptor} {db : Database}, db.mapping = none →
    ((db.catalog.entities ++ entities).map (·.typeName)).Nodup →
    ∃ db', db.registerAll entities = .ok db' ∧ db'.config = db.config ∧ db'.mapping = none ∧
      db'.catalog.entities = db.catalog.entities ++ entities
  | [], db, hm, _ => ⟨db, rfl, rfl, hm, (List.append_nil _).symm⟩
  | d :: rest, db, hm, hnd => by
    have hnew : d.typeName ∉ db.catalog.entities.map (·.typeName) := by
      rw [List.map_append, List.nodup_append] at hnd
      exact fun hmem => hnd.2.2 _ hmem _ List.mem_cons_self rfl
    obtain ⟨catalog, hc⟩ := Catalog.exists_register hnew
    have hentities := (Catalog.register_eq_ok.1 hc).2
    have hreg : db.register d = .ok { db with catalog, remaining := db.remaining + 1 } := by
      unfold register isSealed
      rw [hm, hc]
      rfl
    rw [List.append_cons, ← hentities] at hnd
    obtain ⟨db', hall, hconfig, hm', hentities'⟩ :=
      @registerAll_eq_ok rest { db with catalog, remaining := db.remaining + 1 } hm hnd
    refine ⟨db', Outcome.bind_eq_ok.2 ⟨_, hreg, hall⟩, hconfig, hm', ?_⟩
    rw [hentities', hentities, List.append_assoc, List.singleton_append]

end Database
end Ormap

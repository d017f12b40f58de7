import Mathlib
import SpecLint.Proofs.Config.Toml
import SpecLint.Proofs.Files.Write

namespace SpecLint

namespace Config

theorem load_saved {config : Config} {tree saved : FileTree} {path : Text} (writable : config.isWritable = true)
    (plain : config.Plain) (write : tree.write path config.toml = .ok saved) :
    Config.load saved path = .ok config :=
  load_text (FileTree.write_read write) (ofToml?_toml writable plain)

-- What is saved where a file can stand is loaded again. A limit that the format cannot hold is met
-- before any file is touched.
theorem save_load (config : Config) (tree : FileTree) (path : Text) :
    ((∀ limit ∈ config.limits, limit < 2 ^ 63) → config.Plain → tree.Writable path →
      ∃ saved, config.save tree path = (saved,.ok ()) ∧ Config.load saved path = .ok config) ∧
    ((∃ limit ∈ config.limits, 2 ^ 63 ≤ limit) →
      config.save tree path = (tree,.error .unwritableConfig)) := by
  constructor
  · intro small plain room
    have writable := (isWritable_iff config).mpr small
    obtain ⟨saved,write⟩ := (FileTree.writable_exact config.toml).mp room
    refine ⟨saved,?_,load_saved writable plain write⟩
    rw [save,if_pos writable,write]
  · rintro ⟨limit,member,large⟩
    have unwritable : ¬config.isWritable = true := fun writable =>
      Nat.not_lt.mpr large ((isWritable_iff config).mp writable limit member)
    rw [save,if_neg unwritable]

theorem save_load_sample :
    let config : Config := { Config.standard with
      maxFunctions := 2 ^ 63 - 1
      extensions := []
      vocabulary := ⟨.ofList ["RULES".toList],.ofList ["int".toList, "größe".toList, "it's".toList]⟩ }
    let tree := FileTree.ofEntries [("conf".toList,.directory [("lint.toml".toList,.file (FileTree.encode "old".toList))])]
    let path := "conf/../conf/lint.toml".toList
    (∃ saved, config.save tree path = (saved,.ok ()) ∧ Config.load saved path = .ok config) ∧
      { config with maxRules := 2 ^ 63 }.save tree path = (tree,.error .unwritableConfig) := by
  intro config tree path
  have room : tree.Writable path := by
    have reached : ∃ front, tree.route path = front ++ ["lint.toml".toList] ∧ tree.root.follow front =
        .ok ⟨.directory [("lint.toml".toList,.file (FileTree.encode "old".toList))],
          [("conf".toList,tree.root.entry)]⟩ := ⟨["conf".toList, "..".toList, "conf".toList],rfl,rfl⟩
    exact ⟨⟨_,_,⟨by decide,rfl,reached⟩⟩,rfl⟩
  exact ⟨(save_load config tree path).1 (by decide) (by decide) room,
    (save_load { config with maxRules := 2 ^ 63 } tree path).2 (by decide)⟩

end Config
end SpecLint

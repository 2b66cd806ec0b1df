import VmLauncher.Channel.Transfer
import VmLauncher.Proofs.Channel.Calls
-- Each lane of a pipe or of a pair of sockets is first in, first out, whatever the host does to
-- single calls.
namespace VmLauncher.Channel

open Host (Error)

theorem Side.other_other (side : Side) : side.other.other = side := by
  cases side <;> rfl

theorem holds_of_ok {α : Type} {c c' : Channel} {found : Except Error α × Channel} {P : Prop}
    (h : c.FailedByWhim found ∨ c.Refused found ∨ P) {a : α} (hfound : found = (.ok a, c')) : P := by
  rcases h with ⟨e, ws, -, hfailed⟩ | ⟨e, after, hrefused, -⟩ | hok
  · rw [hfailed] at hfound
    simp at hfound
  · rw [hrefused] at hfound
    simp at hfound
  · exact hok

theorem lane_carries (side : Side) :
    Carries (descriptor (some side.other)) (descriptor (some side)) (·.queue side) where
  read count c bytes c' hmade := by
    obtain ⟨spot, after, hside, hread, hqueue⟩ :=
      holds_of_ok (c.hostRead_cases (some side) count) hmade
    obtain rfl := Option.some.inj hside
    obtain ⟨hbytes, rfl⟩ := Prod.mk.inj (hmade.symm.trans hread)
    exact ⟨Except.ok.inj hbytes, hqueue⟩
  readFails _ _ _ _ hmade := (hostRead_error hmade).1 side
  write bytes c n c' hmade := by
    obtain ⟨spot, m, after, hside, hwritten, hn, hpos, hqueue⟩ :=
      holds_of_ok (c.hostWrite_cases (some side.other) bytes) hmade
    obtain rfl := Option.some.inj hside
    obtain ⟨hcount, rfl⟩ := Prod.mk.inj (hmade.symm.trans hwritten)
    obtain rfl := Except.ok.inj hcount
    rw [side.other_other] at hqueue
    exact ⟨hn, hpos, hqueue⟩
  writeFails _ _ _ _ hmade := (hostWrite_error hmade).1 side

end VmLauncher.Channel

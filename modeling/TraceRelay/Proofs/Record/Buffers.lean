import TraceRelay.Record.Encoder
/-! What the encoder has put into its buffers: after what was there, the bytes of the record. The scratch
buffer never shows in what comes out. -/
namespace TraceRelay.Record
open Text (utf8)

theorem markedByte {b : UInt8} (small : b.toNat < 128) : (b ||| 0x80).toNat = b.toNat + 128 := by
  have sum := Nat.two_pow_add_eq_or_of_lt (i := 7) small 1
  rw [UInt8.toNat_or, Nat.or_comm]
  exact sum.symm.trans (Nat.add_comm _ _)

theorem markedGroup (w : UInt64) : (w &&& 0x7F).toUInt8 ||| 0x80 = UInt8.ofNat (w.toNat % 128 + 128) := by
  have low : (w &&& 0x7F).toNat = w.toNat % 128 :=
    (UInt64.toNat_and w 0x7F).trans (Nat.and_two_pow_sub_one_eq_mod w.toNat 7)
  have byte : (w &&& 0x7F).toUInt8.toNat = w.toNat % 128 := by
    rw [UInt64.toNat_toUInt8, low]
    omega
  rw [← UInt8.toNat_inj, markedByte (by omega), byte, UInt8.toNat_ofNat']
  omega

theorem putGroupsList (buf : Buffer) (w : UInt64) : (putGroups buf w).toList = buf.toList ++ groups w.toNat := by
  fun_induction putGroups buf w with
  | case1 buf w last =>
    rw [groups, if_pos ((oneGroupLeft w).mp last), Array.toList_push]
    rfl
  | case2 buf w more ih =>
    have large := mt (oneGroupLeft w).mpr more
    rw [ih, groups.eq_def w.toNat, if_neg large, Array.toList_push, markedGroup, groupShifted, List.append_assoc,
      List.singleton_append]

theorem putVarintList (buf : Buffer) (i : Int64) : (putVarint buf i).toList = buf.toList ++ varint i :=
  putGroupsList buf i.toUInt64

theorem putTextList (buf : Buffer) (s : String) : (putText buf s).toList = buf.toList ++ text s := by
  unfold putText text
  dsimp only
  rw [Array.toList_appendList, putVarintList, List.append_assoc]

theorem putStartList (buf : Buffer) (d : Detail) : (putStart buf d).toList = buf.toList ++ atStart d := by
  rw [putStart, putTextList, putTextList, putVarintList, atStart]
  simp only [List.append_assoc]

theorem textOfNothing : text "" = varint 0 := by
  rw [text]
  exact List.append_nil _

theorem putEndList (buf : Buffer) (d : Detail) : (putEnd buf d).toList = buf.toList ++ atEnd d := by
  unfold putEnd atEnd
  dsimp only
  split
  · rename_i empty
    have nothing : d.data = "" := String.isEmpty_iff.mp empty
    rw [putVarintList, putTextList, nothing, textOfNothing, List.append_assoc]
  · rw [putTextList, putTextList, List.append_assoc]

theorem putLeafList (buf : Buffer) (mark : UInt8) (d : Detail) :
    (putLeaf buf mark d).toList = buf.toList ++ mark :: (atStart d ++ atEnd d) := by
  rw [putLeaf, putEndList, putStartList, Array.toList_push]
  simp only [List.append_assoc, List.cons_append, List.nil_append]

mutual

theorem putMessageList (buf : Buffer) (m : Message) : (putMessage buf m).toList = buf.toList ++ body m := by
  cases m with
  | transaction d t cs =>
    rw [putMessage, body, putVarintList, putEndList, Array.toList_push, putMessagesList, putStartList, Array.toList_push]
    simp only [List.append_assoc, List.cons_append, List.nil_append]
  | event d => rw [putMessage, putLeafList, body]; rfl
  | heartbeat d => rw [putMessage, putLeafList, body]; rfl

theorem putMessagesList (buf : Buffer) (ms : List Message) :
    (putMessages buf ms).toList = buf.toList ++ bodies ms := by
  cases ms with
  | nil => rw [putMessages, bodies, List.append_nil]
  | cons m ms => rw [putMessages, putMessagesList, putMessageList, bodies, List.append_assoc]

end

theorem putTextsList (buf : Buffer) (ss : List String) :
    (ss.foldl putText buf).toList = buf.toList ++ ss.flatMap text := by
  induction ss generalizing buf with
  | nil => rw [List.foldl_nil, List.flatMap_nil, List.append_nil]
  | cons s ss ih => rw [List.foldl_cons, ih, putTextList, List.flatMap_cons, List.append_assoc]

namespace Encoder

theorem scratchIsRecord (e : Encoder) (t : Tree) :
    (e.encode t).scratch.toList = (ofTree e.origin t).encode := by
  have cleared : (e.scratch.shrink 0).toList = [] := by rw [Array.toList_shrink]; rfl
  unfold encode Record.encode
  dsimp only
  rw [putMessageList, putTextsList, Array.toList_appendList, cleared, List.nil_append]

theorem framedOut (e : Encoder) (out : Buffer) (t : Tree) :
    (e.encodeFramed out t).2.toList = out.toList ++ (ofTree e.origin t).framed := by
  have size : (e.encode t).scratch.size = (ofTree e.origin t).encode.length := by
    rw [← scratchIsRecord, Array.length_toList]
  unfold encodeFramed framed
  dsimp only
  rw [Array.toList_append, Array.toList_appendList, scratchIsRecord, size, List.append_assoc]

theorem allOut (e : Encoder) (out : Buffer) (ts : List Tree) :
    (e.encodeAll out ts).2.toList = out.toList ++ (ts.map (ofTree e.origin)).flatMap framed := by
  induction ts generalizing e out with
  | nil => rw [encodeAll, List.map_nil, List.flatMap_nil, List.append_nil]
  | cons t ts ih =>
    have same : (e.encodeFramed out t).1.origin = e.origin := rfl
    have rest := ih (e.encodeFramed out t).1 (e.encodeFramed out t).2
    rw [framedOut, same] at rest
    rw [List.map_cons, List.flatMap_cons, ← List.append_assoc]
    exact rest

end Encoder

end TraceRelay.Record

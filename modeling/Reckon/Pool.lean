import Reckon.Engine

/-!
Engines behind handles.  Handles of a shared pool stand for one engine; in other pools each handle
has an engine of its own.
-/

namespace Reckon

structure Pool where
  shared : Bool
  engines : List Engine
  handles : List Nat

namespace Pool

def start (shared : Bool) (engine : Engine) : Pool := ⟨shared, [engine], [0]⟩

def engine? (pool : Pool) (handle : Nat) : Option Engine :=
  (pool.handles[handle]?).bind fun place => pool.engines[place]?

def update (pool : Pool) (handle : Nat) (change : Engine → Engine) : Pool :=
  match pool.handles[handle]? with
  | some place => { pool with engines := pool.engines.modify place change }
  | none => pool

/-- A further handle: for the same engine if engines are shared, and else for a copy of it. -/
def clone (pool : Pool) (handle : Nat) : Pool :=
  match pool.handles[handle]?, pool.engine? handle with
  | some place, some engine =>
      if pool.shared then { pool with handles := pool.handles ++ [place] }
      else
        { pool with
          engines := pool.engines ++ [engine]
          handles := pool.handles ++ [pool.engines.length] }
  | _, _ => pool

end Pool

end Reckon

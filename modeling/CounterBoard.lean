import CounterBoard.Main
import CounterBoard.Proofs.Agreement
import CounterBoard.Proofs.Announces
import CounterBoard.Proofs.Answering
import CounterBoard.Proofs.Appending
import CounterBoard.Proofs.FirstFault
import CounterBoard.Proofs.Grammars
import CounterBoard.Proofs.GridShape
import CounterBoard.Proofs.Interleaving
import CounterBoard.Proofs.NormalForm
import CounterBoard.Proofs.Outages
import CounterBoard.Proofs.Overrun
import CounterBoard.Proofs.Picking
import CounterBoard.Proofs.RecorderRuns
import CounterBoard.Proofs.RunHistory
import CounterBoard.Proofs.RunningCounts
import CounterBoard.Proofs.ServedSnapshot
import CounterBoard.Proofs.Session
import CounterBoard.Proofs.Shifting
import CounterBoard.Proofs.Tiling
import CounterBoard.Proofs.Transposing
import CounterBoard.Proofs.Trimming
import CounterBoard.Proofs.Walking
import CounterBoard.Proofs.WireForms
import CounterBoard.Proofs.ZuluText
import CounterBoard.Traffic

import UsbAudio.Spec.StreamBuf
import UsbAudio.Spec.Stream
import UsbAudio.Spec.State
import UsbAudio.Spec.Control
import UsbAudio.Spec.Device
import UsbAudio.Proof.Occupancy
import UsbAudio.Proof.Callback
import UsbAudio.Proof.Frame
import UsbAudio.Proof.Transfer
import UsbAudio.Proof.Altset
import UsbAudio.Proof.Volume
import UsbAudio.Proof.Control
import UsbAudio.Proof.Restore
import UsbAudio.Proof.Run
import UsbAudio.Proof.Misalign
import UsbAudio.Proof.Ring
import UsbAudio.Proof.Session
import UsbAudio.Proof.Flush
import UsbAudio.Proof.Isolation
import UsbAudio.Proof.Migration
